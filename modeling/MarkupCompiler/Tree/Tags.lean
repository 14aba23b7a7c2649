import MarkupCompiler.Tree.Node

/-!
# Kinds of elements

The sets of element names that decide how an element takes part in the text and in the blocks of
a document. All names are in lower case.
-/

namespace MarkupCompiler.Tags

/-- Elements whose whitespace is kept. -/
def preserving : List String := ["pre", "textarea", "listing", "plaintext"]

/-- Elements whose content is no document text. -/
def skipped : List String := ["script", "style", "head", "title", "template", "noscript"]

def lists : List String := ["ul", "ol"]

/-- Elements that are one block whatever they hold. -/
def paragraphs : List String := ["p", "h1", "h2", "h3", "h4", "h5", "h6", "pre"]

/-- Elements that are one block when they hold inline content only. -/
def containers : List String :=
  ["html", "body", "div", "section", "article", "main", "header", "footer", "aside", "nav",
    "blockquote", "figure", "figcaption", "address", "details", "summary", "form", "fieldset",
    "center", "dl", "dt", "dd", "li"]

/-- Groups of table rows. -/
def tableSections : List String := ["thead", "tbody", "tfoot"]

def cells : List String := ["td", "th"]

/-- All elements that do not stand in a line of text. -/
def blockLevel : List String :=
  paragraphs ++ containers ++ lists ++ tableSections ++ cells ++ ["table", "tr", "caption", "hr"]

def bold : List String := ["strong", "b"]

def italic : List String := ["em", "i"]

def underlined : List String := ["u", "ins"]

def struck : List String := ["s", "strike", "del"]

/-- Text in a font of equal widths. -/
def monospace : List String := ["code", "kbd", "samp", "tt"]

end MarkupCompiler.Tags
