import MarkupCompiler.Markdown.LinkParts

/-!
# Running text

Running text is a list of pieces. Emphasis is given by marks that open and close it; links and
pictures hold pieces themselves.
-/

namespace MarkupCompiler.Markdown

inductive Emphasis where
  | plain
  | strong
  | struck
  deriving Repr, DecidableEq, Inhabited

/-- A piece of running text. -/
inductive Inline where
  | text (content : Text)
  /-- Text that stands for an escape or a reference. -/
  | literal (content : Text)
  | softBreak
  | hardBreak
  | code (content : Text)
  | html (content : Text)
  | opening (kind : Emphasis)
  | closing (kind : Emphasis)
  | link (target : Target) (children : List Inline)
  | image (target : Target) (children : List Inline)
  deriving Inhabited

namespace Inline

/-- Whether a piece is a text with one given character. -/
def isLone (c : Char) : Inline → Bool
  | .text [d] => c == d
  | _ => false

/-- Whether a piece closes text that is struck through. -/
def closesStruck : Inline → Bool
  | .closing .struck => true
  | _ => false

mutual

/-- The plain text of a piece, which stands for a picture; escapes and code are left out. -/
def plainText : Inline → Text
  | .text content => content
  | .html content => content
  | .softBreak => ['\n']
  | .hardBreak => ['\n']
  | .link _ children => plainTextOf children
  | .image _ children => plainTextOf children
  | _ => []

def plainTextOf : List Inline → Text
  | [] => []
  | piece :: pieces => plainText piece ++ plainTextOf pieces

end

end Inline

end MarkupCompiler.Markdown
