import IsePortal.Platform.Text

/-!
# XML documents

The part of `xml.etree.ElementTree` the portal reads documents with. A tag is spelled as the parser
gives it, `{namespace}name` or `name`.
-/

namespace IsePortal

/-- An element of a document. -/
inductive Element where
  | mk (tag : String) (text : Option String) (children : List Element)

namespace Element

def tag : Element → String
  | .mk tag _ _ => tag

def text : Element → Option String
  | .mk _ text _ => text

def children : Element → List Element
  | .mk _ _ children => children

mutual

/-- `element.iter()`: the element and all below it, in the order of the document. -/
def iter : Element → List Element
  | .mk tag text children => .mk tag text children :: iterAll children

/-- The elements of several trees, one tree after the other. -/
def iterAll : List Element → List Element
  | [] => []
  | element :: rest => element.iter ++ iterAll rest

end

/-- The elements below the element. -/
def descendants (element : Element) : List Element := iterAll element.children

theorem iter_eq (element : Element) : element.iter = element :: element.descendants := by
  cases element
  rw [iter, descendants, children]

/-- `element.find(name)` -/
def find (element : Element) (name : String) : Option Element :=
  element.children.find? fun child => child.tag = name

/-- `element.find(".//name")` -/
def findBelow (element : Element) (name : String) : Option Element :=
  element.descendants.find? fun below => below.tag = name

/-- The truth value of an element: it has a child. -/
def truthy (element : Element) : Bool := !element.children.isEmpty

end Element

/-- `tag.split("}")[-1]` -/
def localName (tag : String) : String :=
  String.ofList (tag.toList.reverse.takeWhile (· ≠ '}')).reverse

/-- `ET.fromstring`; `none` where it raises `ParseError`, as it does on a blank text. -/
class XmlParser [PyText] where
  fromString : String → Option Element
  fromString_blank : ∀ text, PyText.strip text = "" → fromString text = none

end IsePortal
