import ScopedMarkup.Markup.Node

namespace ScopedMarkup.Markup

/-! Looking things up in a tree. What concerns a component as a whole (imports,
metadata, parts, style elements) is looked for among the children of its top
node only. -/

namespace Node

mutual
/-- The node and all nodes below it, each before its children. -/
def walk : Node σ → List (Node σ)
  | .element tag attributes children => .element tag attributes children :: walkAll children
  | .fragment children => .fragment children :: walkAll children
  | .text value => [.text value]
  | .slot script => [.slot script]
  | .style attributes sheet => [.style attributes sheet]
  | .foreign value => [.foreign value]

def walkAll : List (Node σ) → List (Node σ)
  | [] => []
  | node :: rest => walk node ++ walkAll rest
end

/-- Elements have a tag; a style element has the tag `style`. -/
def tag? : Node σ → Option Text
  | .element tag _ _ => some tag
  | .style .. => some "style"
  | _ => none

def attributes : Node σ → List Attribute
  | .element _ attributes _ => attributes
  | .style attributes _ => attributes
  | _ => []

/-- The first attribute of this name. -/
def attribute? (name : Text) (node : Node σ) : Option Attribute :=
  node.attributes.find? fun entry => entry.name = name

def attributeValue? (name : Text) (node : Node σ) : Option Text :=
  (node.attribute? name).bind Attribute.value

def hasAttribute (name : Text) (node : Node σ) : Bool := (node.attribute? name).isSome

def isElement : Node σ → Bool
  | .element .. => true
  | _ => false

def isStyle : Node σ → Bool
  | .style .. => true
  | _ => false

def childrenByTag (tag : Text) (parent : Node σ) : List (Node σ) :=
  parent.children.filter fun child => child.tag? = some tag

/-- The style elements at the top, or the node itself if it is one. -/
def styleElements (node : Node σ) : List (Node σ) :=
  if node.isStyle then [node] else node.children.filter isStyle

/-- The imports that name a source. -/
def imports (node : Node σ) : List (Node σ) :=
  (node.childrenByTag "import").filter fun child => child.isElement && child.hasAttribute "src"

/-- The identifiers of the imports that have one. -/
def importIds (node : Node σ) : List Text :=
  (node.imports.filterMap (attributeValue? "id")).filter (· ≠ [])

/-- The content of the first metadata element of this name. -/
def metaValue? (name : Text) (node : Node σ) : Option Text :=
  ((node.childrenByTag "meta").find? fun child => child.attributeValue? "name" = some name).bind
    (attributeValue? "content")

/-- The tags of elements that are not rendered. -/
def hiddenTags : List Text := ["import", "logic", "meta", "style", "part"]

/-- Whether an element of this tag is rendered. A line feed at the end of the
tag makes no difference. -/
def isVisibleTag (tag : Text) : Bool :=
  !hiddenTags.any fun hidden => tag = hidden || tag = hidden ++ ['\n']

/-- Whether an element is rendered. -/
def isVisible (node : Node σ) : Bool := node.tag?.all isVisibleTag

/-- The children that are text, fragments or rendered elements. -/
def visibleChildren (node : Node σ) : List (Node σ) :=
  node.children.filter fun
    | .text _ | .fragment _ => true
    | .element tag _ _ => isVisibleTag tag
    | .slot _ | .style .. | .foreign _ => false

def parts (node : Node σ) : List (Node σ) :=
  (node.childrenByTag "part").filter isElement

/-- The node that is reached by going down to these children in turn. -/
def descend? (node : Node σ) : (indices : List Nat) → Option (Node σ)
  | [] => some node
  | index :: rest => (node.children[index]?).bind fun child => child.descend? rest

end Node

end ScopedMarkup.Markup
