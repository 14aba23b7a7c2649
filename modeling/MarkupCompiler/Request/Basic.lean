import MarkupCompiler.Style.ParagraphStyle

/-!
# Edit requests

A request edits a document at absolute positions; ranges are half-open. The document service takes
each kind of request as an object of its own shape.
-/

namespace MarkupCompiler

/-- An edit of a document. -/
inductive Request where
  | insertText (position : Int) (text : Text)
  | setParagraphStyle (start stop : Int) (style : ParagraphStyle)
  | setTextStyle (start stop : Int) (style : TextStyle)
  | setListBullet (start stop : Int) (isOrdered : Bool)
  | createTable (position rows columns : Int)
  deriving Repr, DecidableEq, Inhabited

namespace RequestShape

def range (start stop : Json) : Json := .obj [("startIndex", start), ("endIndex", stop)]

def location (index : Json) : Json := .obj [("index", index)]

def insertText (index text : Json) : Json :=
  .obj [("insertText", .obj [("location", location index), ("text", text)])]

def updateParagraphStyle (start stop style fields : Json) : Json :=
  .obj [("updateParagraphStyle",
    .obj [("range", range start stop), ("paragraphStyle", style), ("fields", fields)])]

def updateTextStyle (start stop style fields : Json) : Json :=
  .obj [("updateTextStyle",
    .obj [("range", range start stop), ("textStyle", style), ("fields", fields)])]

/-- The bullets of a kind of list. -/
def bulletPreset (isOrdered : Bool) : String :=
  if isOrdered then "NUMBERED_DECIMAL_ALPHA_ROMAN" else "BULLET_DISC_CIRCLE_SQUARE"

def bulletList (start stop : Json) (isOrdered : Bool) : Json :=
  .obj [("createParagraphBullets",
    .obj [("range", range start stop), ("bulletPreset", .str (bulletPreset isOrdered))])]

def insertTable (index rows columns : Json) : Json :=
  .obj [("insertTable", .obj [("location", location index), ("rows", rows), ("columns", columns)])]

end RequestShape

namespace Request

/-- A request as the document service takes it. -/
def toJson : Request → Json
  | .insertText position text =>
    RequestShape.insertText (.int position) (.str (String.ofList text))
  | .setParagraphStyle start stop style =>
    RequestShape.updateParagraphStyle (.int start) (.int stop) style.toJson (.str style.fields)
  | .setTextStyle start stop style =>
    RequestShape.updateTextStyle (.int start) (.int stop) style.toJson (.str style.fields)
  | .setListBullet start stop isOrdered =>
    RequestShape.bulletList (.int start) (.int stop) isOrdered
  | .createTable position rows columns =>
    RequestShape.insertTable (.int position) (.int rows) (.int columns)

/-- Requests in order, as the document service takes them. -/
def listToJson (requests : List Request) : Json := .arr (requests.map toJson)

end Request

end MarkupCompiler
