import DeepNps.Text
import Mathlib.Data.List.Dedup
import Mathlib.Data.List.Sort

/-!
# Tasks sent by a configured client

The server expands the ports of a task message and makes a tunnel for each, with the
target at the same place.  There is no result where the server would crash.
-/

namespace DeepNps.Bridge

/-- `strconv.Atoi`; a number that is no `int` is in no range of ports either. -/
def atoi (text : String) : Option Int :=
  let digits (chars : List Char) : Option Int :=
    if chars = [] ∨ ¬ chars.all Char.isDigit then none
    else some (chars.foldl (fun value char => value * 10 + (char.toNat - '0'.toNat : Nat)) 0)
  match text.toList with
  | '+' :: chars => digits chars
  | '-' :: chars => (digits chars).map fun value => -value
  | chars => digits chars

def parsePortString (text : String) : Option Int :=
  (atoi (Text.trimSpace text)).filter fun port => 1 ≤ port ∧ port ≤ 65535

def itemPorts (item : String) : List Int :=
  match item.toList.dropWhile (· ≠ '-') with
  | [] => (parsePortString item).toList
  | _ :: back =>
      let front := item.toList.takeWhile (· ≠ '-')
      match parsePortString (.ofList front), parsePortString (.ofList back) with
      | some first, some last =>
          (List.range ((max first last - min first last).toNat + 1)).map (min first last + ·)
      | _, _ => []

def getPorts (text : String) : List Int :=
  ((Text.split text ',').flatMap fun item =>
    let item := Text.trimSpace item
    if item = "" then [] else itemPorts item).dedup.insertionSort (· ≤ ·)

/-- The fields of a `file.Target` that are read or written here. -/
structure ConfigTarget where
  targetStr : String
  localProxy : Bool := false
  proxyProtocol : Int := 0
  deriving DecidableEq, Repr

/-- A `file.Tunnel`, as it is sent and as it is made.  The fields that are copied as they are have
a common value; what is set to a fixed value is left out. -/
structure ConfigTunnel (Accounts Details : Type) where
  mode : String
  ports : String := ""
  port : Int := 0
  remark : String := ""
  targetAddr : String := ""
  target : Option ConfigTarget := none
  multiAccount : Option Accounts := none
  details : Details
  deriving DecidableEq

section

variable {Accounts Details : Type} (task : ConfigTunnel Accounts Details)

def splitConfigTaskTargets : List String :=
  match task.target with
  | none => []
  | some target =>
      let raw := Text.trimSpace target.targetStr
      if raw = "" then [] else ((Text.split raw ',').map Text.trimSpace).filter (· ≠ "")

def expandConfigTaskPorts : Option (List Int × List String) :=
  let ports := getPorts task.ports
  let targets := splitConfigTaskTargets task
  if 1 < ports.length ∧ (task.mode = "tcp" ∨ task.mode = "udp") ∧
      ports.length ≠ targets.length then none
  else
    let ports := if task.mode = "secret" ∨ task.mode = "p2p" then ports ++ [0] else ports
    let ports := if task.mode = "file" ∧ ports.length = 0 then ports ++ [0] else ports
    if ports.length = 0 then none else some (ports, targets)

/-- The tunnels that a message asks for: a port for each that it names, and one more if it is of
mode `secret` or `p2p`. -/
def askedPorts : Nat :=
  (getPorts task.ports).length + if task.mode = "secret" ∨ task.mode = "p2p" then 1 else 0

/-- Several ports have a target each, and a single port of mode `file` has a target. -/
def HasTargets : Prop :=
  (task.mode = "tcp" ∨ task.mode = "udp" ∨ askedPorts task ≤ 1 ∨
    askedPorts task ≤ (splitConfigTaskTargets task).length) ∧
  (task.mode = "file" → askedPorts task ≤ 1 → task.target ≠ none)

instance : Decidable (HasTargets task) := inferInstanceAs (Decidable (_ ∧ _))

variable [Inhabited Accounts]

/-- `newConfigTaskVariant`, none if an index is out of range. -/
def newConfigTaskVariant (ports : List Int) (targets : List String) (index : Nat) :
    Option (ConfigTunnel Accounts Details) :=
  ports[index]?.bind fun port =>
    let tunnel := { task with
      ports := "", port := port, multiAccount := some (task.multiAccount.getD default) }
    if ports.length = 1 then some tunnel
    else targets[index]?.map fun target =>
      let targetStr := Text.trimSpace target
      let targetStr := if task.targetAddr ≠ "" ∧ ':' ∉ targetStr.toList then
        task.targetAddr ++ ":" ++ targetStr else targetStr
      { tunnel with
        remark := task.remark ++ "_" ++ toString port
        target := some { (task.target.getD { targetStr := "" }) with targetStr := targetStr } }

variable (fileTunnelRuntimeKey : ConfigTunnel Accounts Details → String)
  (addFileOwner : String → Except String Bool)

/-- The tunnel, its key, whether its owner is new and whether it was attached, with the results of
`AddFileOwner`.  None if a missing target is written to. -/
def attachConfigTaskFileRuntime : Option (ConfigTunnel Accounts Details × String × Bool × Bool) :=
  if task.mode ≠ "file" then some (task, "", false, true)
  else
    let fileKey := fileTunnelRuntimeKey task
    match addFileOwner fileKey with
    | .error _ => some (task, "", false, false)
    | .ok added => task.target.map fun target =>
        ({ task with target := some { target with targetStr := "file://" ++ fileKey } },
          fileKey, added, true)

/-- Only the single tunnel of a message shares its target with the message, so what is attached
before makes no difference. -/
def prepareConfigTaskVariant (ports : List Int) (targets : List String) (index : Nat) :
    Option (ConfigTunnel Accounts Details × String × Bool × Bool) :=
  (newConfigTaskVariant task ports targets index).bind fun tunnel =>
    attachConfigTaskFileRuntime tunnel fileTunnelRuntimeKey addFileOwner

variable {task} {ports : List Int} {targets : List String} {index : Nat}

omit [Inhabited Accounts] in
/-- The ports of an accepted message, at least one; several of mode `tcp` or `udp` have as many
targets. -/
theorem length_of_expanded (isAccepted : expandConfigTaskPorts task = some (ports, targets)) :
    targets = splitConfigTaskTargets task ∧ ports.length = max 1 (askedPorts task) ∧
      (task.mode = "tcp" ∨ task.mode = "udp" → ports.length ≠ 1 →
        ports.length = targets.length) := by
  simp only [expandConfigTaskPorts] at isAccepted
  unfold askedPorts
  grind

/-- If a port has a target, it gets a tunnel; a single port gets the target of the message. -/
theorem newConfigTaskVariant_isSome (task : ConfigTunnel Accounts Details)
    (isIndex : index < ports.length)
    (enough : ports.length = 1 ∨ ports.length ≤ targets.length) :
    ∃ tunnel, newConfigTaskVariant task ports targets index = some tunnel ∧
      tunnel.mode = task.mode ∧ (ports.length ≠ 1 ∨ task.target ≠ none → tunnel.target ≠ none) := by
  rw [newConfigTaskVariant, List.getElem?_eq_getElem isIndex, Option.bind_some]
  by_cases single : ports.length = 1
  · refine ⟨_, if_pos single, rfl, ?_⟩
    rintro (several | isTarget)
    · exact absurd single several
    · exact isTarget
  · have isTarget : index < targets.length := by omega
    rw [List.getElem?_eq_getElem isTarget]
    exact ⟨_, if_neg single, rfl, fun _ => Option.some_ne_none _⟩

theorem prepareConfigTaskVariant_isSome (isIndex : index < ports.length)
    (enough : ports.length = 1 ∨ ports.length ≤ targets.length)
    (isTarget : task.mode = "file" → ports.length = 1 → task.target ≠ none) :
    ∃ prepared, prepareConfigTaskVariant task fileTunnelRuntimeKey addFileOwner ports targets
      index = some prepared := by
  obtain ⟨tunnel, isTunnel, sameMode, hasTarget⟩ := newConfigTaskVariant_isSome task isIndex enough
  rw [prepareConfigTaskVariant, isTunnel, Option.bind_some, attachConfigTaskFileRuntime]
  split_ifs with isFile
  · exact ⟨_, rfl⟩
  · have present : tunnel.target ≠ none := by grind
    obtain ⟨_, isPresent⟩ := Option.ne_none_iff_exists'.mp present
    simp only [isPresent]
    cases addFileOwner (fileTunnelRuntimeKey tunnel) with
    | error | ok => exact ⟨_, rfl⟩

/-- Of several ports, the one after the last target has none. -/
theorem prepareConfigTaskVariant_beyond_targets (several : ports.length ≠ 1) :
    prepareConfigTaskVariant task fileTunnelRuntimeKey addFileOwner ports targets
      targets.length = none := by
  rw [prepareConfigTaskVariant, newConfigTaskVariant]
  cases ports[targets.length]? with
  | none => rfl
  | some port => simp [several]

/-- The target that a message lacks is written to once the owner of a single port is added. -/
theorem prepareConfigTaskVariant_without_target (single : ports.length = 1)
    (isFile : task.mode = "file") (noTarget : task.target = none) :
    prepareConfigTaskVariant task fileTunnelRuntimeKey (fun _ => .ok true) ports targets index =
      none := by
  rw [prepareConfigTaskVariant, newConfigTaskVariant]
  cases ports[index]? with
  | none => rfl
  | some port => simp [single, isFile, noTarget, attachConfigTaskFileRuntime]

/-- An accepted message crashes the server at no index, whatever owners are added, exactly if it
has its targets. -/
theorem config_task_prepared (isAccepted : expandConfigTaskPorts task = some (ports, targets)) :
    (∀ fileTunnelRuntimeKey addFileOwner index, index < ports.length →
      ∃ prepared, prepareConfigTaskVariant task fileTunnelRuntimeKey addFileOwner ports targets
        index = some prepared) ↔ HasTargets task := by
  obtain ⟨rfl, isLength, bound⟩ := length_of_expanded isAccepted
  constructor
  · intro prepared
    refine ⟨?_, fun isFile single noTarget => ?_⟩
    · by_contra lacking
      push Not at lacking
      obtain ⟨-, -, several, missing⟩ := lacking
      obtain ⟨_, isPrepared⟩ := prepared (fun _ => "") (fun _ => .ok true)
        (splitConfigTaskTargets task).length (by omega)
      rw [prepareConfigTaskVariant_beyond_targets _ _ (by omega)] at isPrepared
      cases isPrepared
    · obtain ⟨_, isPrepared⟩ := prepared (fun _ => "") (fun _ => .ok true) 0 (by omega)
      rw [prepareConfigTaskVariant_without_target _ (by omega) isFile noTarget] at isPrepared
      cases isPrepared
  · rintro ⟨haveTargets, isTarget⟩ fileTunnelRuntimeKey addFileOwner index isIndex
    apply prepareConfigTaskVariant_isSome _ _ isIndex
    · grind
    · intro isFile single
      exact isTarget isFile (by omega)

end

/-- Two ports and their targets. -/
theorem config_task_prepared_two :
    let task : ConfigTunnel Unit Unit :=
      { mode := "tcp", ports := "81, 80", target := some { targetStr := "a:1,b:2" }, details := () }
    expandConfigTaskPorts task = some ([80, 81], ["a:1", "b:2"]) ∧ HasTargets task ∧
      ∃ prepared, prepareConfigTaskVariant task (fun _ => "") (fun _ => .ok true) [80, 81]
        ["a:1", "b:2"] 1 = some prepared := by
  intro task
  have isAccepted : expandConfigTaskPorts task = some ([80, 81], ["a:1", "b:2"]) := by decide
  have hasTargets : HasTargets task := by decide
  exact ⟨isAccepted, hasTargets,
    (config_task_prepared isAccepted).mpr hasTargets _ _ 1 (by decide)⟩

/-- Ports without targets are accepted in mode `secret`, and so is a port in mode `file`. -/
theorem config_task_crashes :
    let secret : ConfigTunnel Unit Unit := { mode := "secret", ports := "80", details := () }
    let file : ConfigTunnel Unit Unit := { mode := "file", ports := "80", details := () }
    (expandConfigTaskPorts secret = some ([80, 0], []) ∧
      newConfigTaskVariant secret [80, 0] [] 0 = none) ∧
    expandConfigTaskPorts file = some ([80], []) ∧
      prepareConfigTaskVariant file (fun _ => "") (fun _ => .ok true) [80] [] 0 = none := by
  decide

end DeepNps.Bridge
