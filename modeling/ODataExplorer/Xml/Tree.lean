/-!
Element trees.

An element has a tag, attributes in document order, and children. Names carry their namespace in
front, `{uri}local`, and a name without a namespace is the local name alone. Comments, processing
instructions and character data leave no trace.

Where the position of an element matters, it is taken together with its index in document order as
a `Place`; the tree itself holds no positions, so equal subtrees are equal elements.
-/

namespace ODataExplorer.Xml

/-- An element with everything below it. -/
inductive Element where
  | node (tag : String) (attributes : List (String × String)) (children : List Element)
  deriving Inhabited, Repr

namespace Element

def tag : Element → String
  | .node tag _ _ => tag

def attributes : Element → List (String × String)
  | .node _ attributes _ => attributes

def children : Element → List Element
  | .node _ _ children => children

/-- The value of an attribute by its full name. -/
def get? (name : String) (element : Element) : Option String :=
  element.attributes.lookup name

/-- The value of an attribute; the empty text when it is absent. -/
def getText (name : String) (element : Element) : String :=
  (element.get? name).getD ""

mutual

/-- The element and everything below it, in document order. -/
def subtree : Element → List Element
  | .node tag attributes children => .node tag attributes children :: forest children

/-- The subtrees of a list of siblings, one after another. -/
def forest : List Element → List Element
  | [] => []
  | element :: rest => element.subtree ++ forest rest

end

/-- Everything below the element, in document order, the element itself left out. -/
def descendants (element : Element) : List Element :=
  forest element.children

mutual

/-- The number of elements in a subtree. -/
def size : Element → Nat
  | .node _ _ children => forestSize children + 1

def forestSize : List Element → Nat
  | [] => 0
  | element :: rest => element.size + forestSize rest

end

mutual

/-- How many elements stand in one another, at most. -/
def height : Element → Nat
  | .node _ _ children => forestHeight children + 1

def forestHeight : List Element → Nat
  | [] => 0
  | element :: rest => max element.height (forestHeight rest)

end

end Element

/-- An element together with its index in document order. -/
structure Place where
  index : Nat
  element : Element

namespace Place

/-- The root of a document stands at index zero. -/
def root (element : Element) : Place := ⟨0, element⟩

/-- The places of siblings, the first of which stands at `index`. -/
def siblings (index : Nat) : List Element → List Place
  | [] => []
  | element :: rest => ⟨index, element⟩ :: siblings (index + element.size) rest

/-- The places of the children. -/
def children (place : Place) : List Place :=
  siblings (place.index + 1) place.element.children

/-- The places of everything below. -/
def descendants (place : Place) : List Place :=
  place.element.descendants.mapIdx fun i element => ⟨place.index + 1 + i, element⟩

/-- The place that a path of child indexes leads to; an index may count from the end. -/
def follow? (place : Place) : List Int → Option Place
  | [] => some place
  | step :: path =>
    let children := place.children
    let index := if step < 0 then step + children.length else step
    if index < 0 then none else
      match children[index.toNat]? with
      | some child => child.follow? path
      | none => none

end Place

end ODataExplorer.Xml
