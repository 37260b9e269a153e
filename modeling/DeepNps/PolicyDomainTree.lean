import DeepNps.Table
import DeepNps.Text

/-!
# The domain tree of a policy

The rules for domains are kept in a tree of labels, from the last label to the first.
-/

namespace DeepNps.Policy

open List

def reverseDomainLabels (domain : String) : List String := (Text.split domain '.').reverse

structure DomainRule where
  domain : String
  includeSelf : Bool
  subOnly : Bool

inductive DomainNode
  | mk (children : List (String × DomainNode)) (matchSelf matchSubOnly : Bool)

namespace DomainNode

def children : DomainNode → List (String × DomainNode)
  | mk children _ _ => children

def matchSelf : DomainNode → Bool
  | mk _ matchSelf _ => matchSelf

def matchSubOnly : DomainNode → Bool
  | mk _ _ matchSubOnly => matchSubOnly

def new : DomainNode := mk [] false false

def child (node : DomainNode) (label : String) : Option DomainNode := node.children.lookup label

/-- The loop of `add` over the labels that are left. -/
def add (rule : DomainRule) : List String → DomainNode → DomainNode
  | [], node =>
      mk node.children (node.matchSelf || rule.includeSelf) (node.matchSubOnly || rule.subOnly)
  | label :: labels, node =>
      mk ((label, add rule labels ((node.child label).getD new)) ::
        node.children.filter fun entry => entry.1 ≠ label) node.matchSelf node.matchSubOnly

/-- The loop of `match` over the labels that are left. -/
def walk : List String → DomainNode → Bool
  | [], _ => false
  | label :: labels, node =>
      match node.child label with
      | none => false
      | some child =>
          child.matchSelf || (child.matchSubOnly && 0 < labels.length) || walk labels child

end DomainNode

/-- `domainTree`, with a root that is nil at first. -/
structure DomainTree where
  root : Option DomainNode

namespace DomainTree

def add (tree : DomainTree) (rule : DomainRule) : DomainTree :=
  if rule.domain = "" then tree
  else { root := some ((tree.root.getD .new).add rule (reverseDomainLabels rule.domain)) }

def matchDomain (tree : DomainTree) (domain : String) : Bool :=
  match tree.root with
  | none => false
  | some root => domain ≠ "" && root.walk (reverseDomainLabels domain)

end DomainTree

/-! ## Marks in the tree -/

/-- One of the two marks of a rule. -/
def DomainRule.mark (rule : DomainRule) (self : Bool) : Bool :=
  if self then rule.includeSelf else rule.subOnly

namespace DomainNode

variable {node : DomainNode} {rule : DomainRule} {self : Bool} {path labels : List String}

/-- One of the two marks at the end of a path. -/
def marked (self : Bool) : List String → DomainNode → Bool
  | [], node => if self then node.matchSelf else node.matchSubOnly
  | label :: labels, node => marked self labels ((node.child label).getD new)

theorem marked_new (path : List String) : new.marked self path = false := by
  induction path with
  | nil => cases self <;> rfl
  | cons _ _ ih => exact ih

theorem marked_add (wanted : List String) :
    (node.add rule path).marked self wanted =
      (node.marked self wanted || (rule.mark self && wanted = path)) := by
  induction path generalizing node wanted with
  | nil =>
    cases wanted with
    | nil => cases self <;> simp [add, marked, DomainRule.mark, matchSelf, matchSubOnly]
    | cons => simp [add, marked, child, children]
  | cons label labels ih =>
    cases wanted with
    | nil => simp [add, marked, matchSelf, matchSubOnly]
    | cons first rest =>
      rw [marked, add, child, children, Assoc.lookup_cons_ite, Assoc.lookup_filter_ne, marked]
      by_cases isLabel : first = label
      · simp [isLabel, ih rest]
      · simp [isLabel, child]

theorem walk_iff : node.walk labels = true ↔
    ∃ path, path ≠ [] ∧ path <+: labels ∧
      (node.marked true path = true ∨ node.marked false path = true ∧ path ≠ labels) := by
  induction labels generalizing node with
  | nil => simp [walk]
  | cons label labels ih =>
    have atChild : node.walk (label :: labels) = true ↔
        ∃ path, path <+: labels ∧ (node.marked true (label :: path) = true ∨
          node.marked false (label :: path) = true ∧ path ≠ labels) := by
      rw [walk]
      simp only [marked]
      cases node.child label with
      | none => simp [marked_new]
      | some child =>
        simp only [Bool.or_eq_true, Bool.and_eq_true, decide_eq_true_eq, ih, length_pos_iff,
          Option.getD_some]
        constructor
        · rintro ((isSelf | isSub) | ⟨path, -, isFront, found⟩)
          · exact ⟨[], nil_prefix, .inl isSelf⟩
          · exact ⟨[], nil_prefix, .inr ⟨isSub.1, isSub.2.symm⟩⟩
          · exact ⟨path, isFront, found⟩
        · rintro ⟨path, isFront, found⟩
          by_cases isEmpty : path = []
          · subst isEmpty
            exact .inl (found.imp_right fun isSub => ⟨isSub.1, isSub.2.symm⟩)
          · exact .inr ⟨path, isEmpty, isFront, found⟩
    rw [atChild]
    constructor
    · rintro ⟨path, isFront, found⟩
      refine ⟨label :: path, cons_ne_nil _ _, cons_prefix_cons.mpr ⟨rfl, isFront⟩, ?_⟩
      simpa using found
    · rintro ⟨_ | ⟨first, path⟩, nonempty, isFront, found⟩
      · exact absurd rfl nonempty
      · obtain ⟨rfl, isRest⟩ := cons_prefix_cons.mp isFront
        exact ⟨path, isRest, by simpa using found⟩

end DomainNode

theorem split_inj {first second : String} (same : Text.split first '.' = Text.split second '.') :
    first = second := by
  have sameParts := map_injective_iff.mpr (fun _ _ => String.ofList_inj.mp) same
  have joined := congrArg (intercalate ['.']) sameParts
  rw [intercalate_splitOn, intercalate_splitOn] at joined
  exact String.toList_inj.mp joined

namespace DomainTree

theorem marked_foldl_add (rules : List DomainRule) (tree : DomainTree) (self : Bool)
    (path : List String) :
    ((rules.foldl add tree).root.getD .new).marked self path = true ↔
      (tree.root.getD .new).marked self path = true ∨ ∃ rule ∈ rules, rule.domain ≠ "" ∧
        rule.mark self = true ∧ path = reverseDomainLabels rule.domain := by
  induction rules generalizing tree with
  | nil => simp
  | cons rule rules ih =>
    rw [foldl_cons, ih, add]
    by_cases isEmpty : rule.domain = ""
    · simp [isEmpty]
    · simp [isEmpty, DomainNode.marked_add, or_assoc]

theorem matchDomain_eq (tree : DomainTree) (domain : String) :
    tree.matchDomain domain =
      (domain ≠ "" && (tree.root.getD .new).walk (reverseDomainLabels domain)) := by
  rw [matchDomain]
  cases tree.root with
  | none =>
    have nothing : DomainNode.new.walk (reverseDomainLabels domain) = false := by
      cases reverseDomainLabels domain <;> rfl
    simp [nothing]
  | some => rfl

/-- A host matches exactly if it is the domain of a rule that is marked for the domain itself, or
if it has further labels before the domain of a rule with a mark. -/
theorem matchDomain_iff (rules : List DomainRule) (host : String) :
    (rules.foldl add ⟨none⟩).matchDomain host = true ↔
      host ≠ "" ∧ ∃ rule ∈ rules, rule.domain ≠ "" ∧
        (rule.includeSelf = true ∧ rule.domain = host ∨
          (rule.includeSelf = true ∨ rule.subOnly = true) ∧ rule.domain ≠ host ∧
            Text.split rule.domain '.' <:+ Text.split host '.') := by
  have isNew : ∀ self path, ((none : Option DomainNode).getD .new).marked self path = false :=
    fun _ => DomainNode.marked_new
  rw [matchDomain_eq, Bool.and_eq_true, decide_eq_true_iff, DomainNode.walk_iff]
  simp only [marked_foldl_add, isNew, Bool.false_eq_true, false_or]
  refine and_congr Iff.rfl ⟨?_, ?_⟩
  · rintro ⟨_, -, isFront, ⟨rule, isRule, named, isSelf, rfl⟩ |
      ⟨⟨rule, isRule, named, isSub, rfl⟩, differs⟩⟩
    · have isEnd := reverse_prefix.mp isFront
      refine ⟨rule, isRule, named, ?_⟩
      by_cases isHost : rule.domain = host
      · exact .inl ⟨isSelf, isHost⟩
      · exact .inr ⟨.inl isSelf, isHost, isEnd⟩
    · refine ⟨rule, isRule, named, .inr ⟨.inr isSub, ?_, reverse_prefix.mp isFront⟩⟩
      rintro rfl
      exact differs rfl
  · rintro ⟨rule, isRule, named, isCovered⟩
    refine ⟨reverseDomainLabels rule.domain, ?_, ?_, ?_⟩
    · simp [reverseDomainLabels, Text.split, splitOn_ne_nil]
    · rcases isCovered with ⟨-, rfl⟩ | ⟨-, -, isEnd⟩
      · exact prefix_rfl
      · exact reverse_prefix.mpr isEnd
    · rcases isCovered with ⟨isSelf, -⟩ | ⟨isSelf | isSub, differs, -⟩
      · exact .inl ⟨rule, isRule, named, isSelf, rfl⟩
      · exact .inl ⟨rule, isRule, named, isSelf, rfl⟩
      · exact .inr ⟨⟨rule, isRule, named, isSub, rfl⟩, fun same =>
          differs (split_inj (reverse_injective same))⟩

/-- A rule without a mark matches nothing. -/
theorem unmarked_rule_matches_nothing :
    ([⟨"a", false, false⟩].foldl add ⟨none⟩).matchDomain "b.a" = false ∧
      Text.split "b.a" '.' = "b" :: Text.split "a" '.' := by
  decide +kernel

/-- The tree of two lists of rules matches what the tree of either list matches, so the order of
the rules and rules that are given twice do not matter. -/
theorem matchDomain_append (first second : List DomainRule) (host : String) :
    ((first ++ second).foldl add ⟨none⟩).matchDomain host =
      ((first.foldl add ⟨none⟩).matchDomain host ||
        (second.foldl add ⟨none⟩).matchDomain host) := by
  rw [Bool.eq_iff_iff, Bool.or_eq_true]
  simp only [matchDomain_eq, Bool.and_eq_true, DomainNode.walk_iff, marked_foldl_add, mem_append,
    Option.getD_none, DomainNode.marked_new, Bool.false_eq_true, false_or]
  grind

end DomainTree

end DeepNps.Policy
