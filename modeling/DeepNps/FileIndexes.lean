import DeepNps.GroupIndex
import DeepNps.Text

/-!
# The indexes of the store

Ids by a text, ids in groups, and ids by the labels of a domain name.
-/

namespace DeepNps.File

/-- `StringIDIndex`: the map is given by its lookups. -/
structure StringIDIndex where
  get : String → Option Int

namespace StringIDIndex

def empty : StringIDIndex where
  get := fun _ => none

def add (index : StringIDIndex) (key : String) (id : Int) : StringIDIndex where
  get := Function.update index.get key (some id)

def remove (index : StringIDIndex) (key : String) : StringIDIndex where
  get := Function.update index.get key none

def removeIf (index : StringIDIndex) (key : String) (id : Int) : StringIDIndex :=
  if index.get key = some id then index.remove key else index

end StringIDIndex

/-- `groupIDIndex`: only positive ids are kept, in groups with positive ids. -/
structure GroupIDIndex where
  ids : GroupIndex Int Int
  ready : Bool
  deriving DecidableEq

namespace GroupIDIndex

def new : GroupIDIndex where
  ids := GroupIndex.empty
  ready := false

def markReady (index : GroupIDIndex) : GroupIDIndex := { index with ready := true }

def clear (_ : GroupIDIndex) : GroupIDIndex := new

def add (index : GroupIDIndex) (groupID id : Int) : GroupIDIndex :=
  if groupID ≤ 0 ∨ id ≤ 0 then index else { index with ids := index.ids.add groupID id }

def remove (index : GroupIDIndex) (groupID id : Int) : GroupIDIndex :=
  if groupID ≤ 0 ∨ id ≤ 0 then index else { index with ids := index.ids.remove groupID id }

def removeID (index : GroupIDIndex) (id : Int) : GroupIDIndex :=
  if id ≤ 0 then index else { index with ids := index.ids.removeMember id }

def snapshot (index : GroupIDIndex) (groupID : Int) : List Int :=
  if groupID ≤ 0 then []
  else ascending ((index.ids.members groupID).filter (0 < ·))

def Lists (index : GroupIDIndex) (groupID id : Int) : Prop := id ∈ index.ids.members groupID

variable {index : GroupIDIndex} {groupID group id other : Int}

@[simp]
theorem lists_markReady : index.markReady.Lists groupID id ↔ index.Lists groupID id := Iff.rfl

@[simp]
theorem lists_add : (index.add group other).Lists groupID id ↔
    (groupID = group ∧ id = other ∧ 0 < groupID ∧ 0 < id) ∨ index.Lists groupID id := by
  rw [add]
  split_ifs with isGuarded
  · constructor
    · exact .inr
    · rintro (⟨rfl, rfl, positive⟩ | lists)
      · omega
      · exact lists
  · simp only [Lists, GroupIndex.mem_members_add]
    constructor
    · rintro (⟨rfl, rfl⟩ | lists)
      · exact .inl ⟨rfl, rfl, by omega, by omega⟩
      · exact .inr lists
    · rintro (⟨sameGroup, sameId, -⟩ | lists)
      · exact .inl ⟨sameGroup, sameId⟩
      · exact .inr lists

theorem lists_remove : (index.remove group other).Lists groupID id ↔
    index.Lists groupID id ∧ ¬ (groupID = group ∧ id = other ∧ 0 < groupID ∧ 0 < id) := by
  rw [remove]
  split_ifs with isGuarded
  · constructor
    · intro lists
      exact ⟨lists, by omega⟩
    · exact And.left
  · simp only [Lists, GroupIndex.mem_members_remove]
    constructor
    · rintro ⟨differs, lists⟩
      exact ⟨lists, fun same => differs ⟨same.1, same.2.1⟩⟩
    · rintro ⟨lists, differs⟩
      exact ⟨fun same => differs ⟨same.1, same.2, by omega, by omega⟩, lists⟩

theorem lists_removeID : (index.removeID other).Lists groupID id ↔
    index.Lists groupID id ∧ ¬ (id = other ∧ 0 < id) := by
  rw [removeID]
  split_ifs with isGuarded
  · constructor
    · intro lists
      exact ⟨lists, by omega⟩
    · exact And.left
  · simp only [Lists, GroupIndex.mem_members_removeMember]
    constructor
    · rintro ⟨lists, differs⟩
      exact ⟨lists, fun same => differs same.1⟩
    · rintro ⟨lists, differs⟩
      exact ⟨lists, fun same => differs ⟨same, by omega⟩⟩

@[simp]
theorem ready_add : (index.add group id).ready = index.ready := by
  rw [add]
  split_ifs <;> rfl

@[simp]
theorem ready_remove : (index.remove group id).ready = index.ready := by
  rw [remove]
  split_ifs <;> rfl

@[simp]
theorem ready_removeID : (index.removeID id).ready = index.ready := by
  rw [removeID]
  split_ifs <;> rfl

theorem lists_foldl_add {groups : List Int} :
    (groups.foldl (fun index group => index.add group other) index).Lists groupID id ↔
      (groupID ∈ groups ∧ id = other ∧ 0 < groupID ∧ 0 < id) ∨ index.Lists groupID id := by
  induction groups generalizing index with
  | nil => simp
  | cons _ _ ih =>
    rw [List.foldl_cons, ih, lists_add, List.mem_cons]
    constructor
    · rintro (⟨isListed, new⟩ | ⟨rfl, new⟩ | lists)
      · exact .inl ⟨.inr isListed, new⟩
      · exact .inl ⟨.inl rfl, new⟩
      · exact .inr lists
    · rintro (⟨rfl | isListed, new⟩ | lists)
      · exact .inr (.inl ⟨rfl, new⟩)
      · exact .inl ⟨isListed, new⟩
      · exact .inr (.inr lists)

@[simp]
theorem ready_foldl_add {groups : List Int} :
    (groups.foldl (fun index group => index.add group other) index).ready = index.ready := by
  induction groups generalizing index with
  | nil => rfl
  | cons _ _ ih => rw [List.foldl_cons, ih, ready_add]

@[simp]
theorem mem_snapshot : id ∈ index.snapshot groupID ↔
    0 < groupID ∧ 0 < id ∧ index.Lists groupID id := by
  rw [snapshot]
  split_ifs with isGuarded
  · simp only [List.not_mem_nil, false_iff]
    omega
  · simp only [mem_ascending, Finset.mem_filter, Lists]
    constructor
    · rintro ⟨lists, positive⟩
      exact ⟨by omega, positive, lists⟩
    · rintro ⟨-, positive, lists⟩
      exact ⟨lists, positive⟩

theorem nodup_snapshot : (index.snapshot groupID).Nodup := by
  rw [snapshot]
  split_ifs
  · exact List.nodup_nil
  · exact nodup_ascending _

end GroupIDIndex

/-- `node`: the children by their label and the ids at the node. -/
inductive DomainNode
  | mk (children : List (String × DomainNode)) (ids : List Int)

namespace DomainNode

def children : DomainNode → List (String × DomainNode)
  | mk children _ => children

def ids : DomainNode → List Int
  | mk _ ids => ids

def new : DomainNode := mk [] []

def child (node : DomainNode) (label : String) : Option DomainNode := node.children.lookup label

def setChild (node : DomainNode) (label : String) (child : DomainNode) : DomainNode :=
  mk ((label, child) :: node.children.filter fun entry => entry.1 ≠ label) node.ids

def deleteChild (node : DomainNode) (label : String) : DomainNode :=
  mk (node.children.filter fun entry => entry.1 ≠ label) node.ids

def cloneAdd : List String → Int → DomainNode → DomainNode
  | [], id, node => mk node.children (id :: node.ids.filter (· ≠ id))
  | part :: parts, id, node => node.setChild part (cloneAdd parts id ((node.child part).getD new))

/-- `cloneRemove`: nothing is left of a node without ids and children. -/
def cloneRemove : List String → Int → DomainNode → Option DomainNode
  | [], id, node =>
      let ids := node.ids.filter (· ≠ id)
      if ids = [] ∧ node.children.isEmpty then none else some (mk node.children ids)
  | part :: parts, id, node =>
      let node :=
        match node.child part with
        | none => node
        | some child =>
            match cloneRemove parts id child with
            | none => node.deleteChild part
            | some child => node.setChild part child
      if node.ids = [] ∧ node.children.isEmpty then none else some node

def lookup : List String → DomainNode → List Int
  | [], node => node.ids
  | part :: parts, node =>
      node.ids ++
        match node.child part with
        | none => []
        | some child => lookup parts child

def has : List String → Int → DomainNode → Bool
  | [], id, node => id ∈ node.ids
  | part :: parts, id, node =>
      match node.child part with
      | none => false
      | some child => has parts id child

end DomainNode

/-- `DomainIndex`, with the tree that it holds.  The lower case of a character is
given by a function. -/
structure DomainIndex where
  root : DomainNode

namespace DomainIndex

def new : DomainIndex where
  root := DomainNode.new

variable (lower : Char → Char)

def splitDomain (domain : String) : List String :=
  let domain := Text.mapChars lower (Text.trimSpace domain)
  if domain = "" then [] else (Text.split domain '.').reverse

def normalizeDomain (domain : String) : String :=
  let domain := Text.mapChars lower (Text.trimSpace domain)
  Text.trimPrefix (Text.trimPrefix domain "*.") "*"

/-- `Lookup`: every id once.  The order is the one of a map. -/
def lookup (index : DomainIndex) (domain : String) : List Int :=
  (index.root.lookup (splitDomain lower (Text.mapChars lower (Text.trimSpace domain)))).dedup

def add (index : DomainIndex) (domain : String) (id : Int) : DomainIndex :=
  let parts := splitDomain lower (normalizeDomain lower domain)
  if index.root.has parts id then index else { root := index.root.cloneAdd parts id }

def remove (index : DomainIndex) (domain : String) (id : Int) : DomainIndex :=
  let parts := splitDomain lower (normalizeDomain lower domain)
  if index.root.has parts id then
    { root := (index.root.cloneRemove parts id).getD DomainNode.new }
  else index

end DomainIndex

end DeepNps.File
