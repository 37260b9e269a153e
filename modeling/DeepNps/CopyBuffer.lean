import DeepNps.Text

/-!
# Copying between connections

`CopyBuffer` passes on what it reads and tells from the first bytes whether it is HTTP.
-/

namespace DeepNps.Goroutine

def poolSizeCopy : Nat := 32 * 1024

def httpProbePrefixLimit : Nat := 8

def httpResponsePrefix : List UInt8 := Text.ascii "HTTP/"

def httpRequestPrefixes : List (List UInt8) :=
  ["GET ", "POST ", "HEAD ", "PUT ", "DELETE ", "PATCH ", "OPTIONS ", "CONNECT ", "TRACE "].map
    Text.ascii

def hasToken (front token : List UInt8) : Bool :=
  token.length ≤ front.length ∧ front.take token.length = token

def hasAnyToken (front : List UInt8) (tokens : List (List UInt8)) : Bool :=
  tokens.any (hasToken front)

def isPartOf (front token : List UInt8) : Bool :=
  front.length < token.length ∧ token.take front.length = front

def couldMatchHTTP (front : List UInt8) : Bool :=
  front = [] ∨ isPartOf front httpResponsePrefix ∨ httpRequestPrefixes.any (isPartOf front)

/-- `resolveHTTPProbe` for a task: whether the task is marked as HTTP, and whether the matter
is settled. -/
def resolveHTTPProbe (front : List UInt8) : Bool × Bool :=
  if hasToken front httpResponsePrefix then (true, true)
  else if hasAnyToken front httpRequestPrefixes then (true, true)
  else if httpProbePrefixLimit ≤ front.length ∨ ¬ couldMatchHTTP front then (false, true)
  else (false, false)

/-- Whether there is nothing to find out about HTTP, the bytes collected for it, and the bytes
written. -/
structure Copier where
  checkedHTTP : Bool
  httpProbe : List UInt8
  written : Nat
  deriving DecidableEq

namespace Copier

def new (hasTask : Bool) : Copier where
  checkedHTTP := ¬ hasTask
  httpProbe := []
  written := 0

/-- Look at bytes that were read; the first result is whether the task is HTTP. -/
def probe (copier : Copier) (chunk : List UInt8) : Bool × Copier :=
  if copier.checkedHTTP then (false, copier)
  else
    let httpProbe := (copier.httpProbe ++ chunk).take httpProbePrefixLimit
    let (isHttp, checkedHTTP) := resolveHTTPProbe httpProbe
    (isHttp, { copier with checkedHTTP, httpProbe })

def count (copier : Copier) (chunk : List UInt8) : Copier :=
  { copier with written := copier.written + chunk.length }

end Copier

/-! ## The bytes decide, not the reads -/

/-- A call of `CopyBuffer`: whether it has marked its task, and the bytes it has written. -/
structure CopyRun where
  copier : Copier
  isHttp : Bool
  output : List UInt8

namespace CopyRun

def new : CopyRun where
  copier := Copier.new true
  isHttp := false
  output := []

/-- One turn of the loop, in which the destination takes a part of what is read. -/
def turn (run : CopyRun) (chunk taken : List UInt8) : CopyRun where
  copier := (run.copier.probe chunk).2.count taken
  isHttp := run.isHttp || (run.copier.probe chunk).1
  output := run.output ++ taken

/-- The loop over what the reads return.  It ends with a write that fails or is short, after some
of the bytes. -/
def copy (run : CopyRun) : List (List UInt8 × Option Nat) → CopyRun
  | [] => run
  | (chunk, none) :: turns => (run.turn chunk chunk).copy turns
  | (chunk, some count) :: _ => run.turn chunk (chunk.take count)

end CopyRun

open List

/-- The bytes that are read before the loop ends. -/
def bytesRead : List (List UInt8 × Option Nat) → List UInt8
  | [] => []
  | (chunk, none) :: turns => chunk ++ bytesRead turns
  | (chunk, some _) :: _ => chunk

def httpTokens : List (List UInt8) := httpResponsePrefix :: httpRequestPrefixes

/-- The stream begins with the prefix of a response or with one of the methods. -/
def BeginsHTTP (stream : List UInt8) : Prop := ∃ token ∈ httpTokens, token <+: stream

theorem hasToken_iff {front token : List UInt8} :
    hasToken front token = true ↔ token <+: front := by
  rw [hasToken, decide_eq_true_iff, prefix_iff_eq_take]
  refine ⟨fun isToken => isToken.2.symm, fun isToken => ⟨?_, isToken.symm⟩⟩
  rw [isToken]
  exact length_take_le' _ _

theorem couldMatchHTTP_of_part {front token : List UInt8} (isToken : token ∈ httpTokens)
    (isPart : front <+: token) (shorter : front.length < token.length) :
    couldMatchHTTP front = true := by
  have isPart : isPartOf front token = true :=
    decide_eq_true ⟨shorter, (prefix_iff_eq_take.mp isPart).symm⟩
  rw [couldMatchHTTP, decide_eq_true_iff]
  rcases mem_cons.mp isToken with rfl | isToken
  · exact .inr (.inl isPart)
  · exact .inr (.inr (any_eq_true.mpr ⟨token, isToken, isPart⟩))

theorem resolveHTTPProbe_spec (front : List UInt8) :
    BeginsHTTP front ∧ resolveHTTPProbe front = (true, true) ∨
      ¬ BeginsHTTP front ∧ (resolveHTTPProbe front = (false, false) ∧ front.length < 8 ∨
        resolveHTTPProbe front = (false, true) ∧
          (8 ≤ front.length ∨ couldMatchHTTP front = false)) := by
  have begins : BeginsHTTP front ↔
      hasToken front httpResponsePrefix = true ∨ hasAnyToken front httpRequestPrefixes = true := by
    simp [BeginsHTTP, httpTokens, hasAnyToken, hasToken_iff]
  rw [begins, resolveHTTPProbe, httpProbePrefixLimit]
  grind

/-- What a call knows after the bytes that it has read: either they are collected and may still
begin a token, or no further byte can change the verdict. -/
structure Probes (run : CopyRun) (read : List UInt8) : Prop where
  short : run.copier.httpProbe.length ≤ httpProbePrefixLimit
  undecided : run.copier.checkedHTTP = false →
    run.copier.httpProbe = read ∧ run.isHttp = false ∧ ¬ BeginsHTTP read
  decided : run.copier.checkedHTTP = true → ∀ more, run.isHttp = true ↔ BeginsHTTP (read ++ more)

variable {run : CopyRun} {read : List UInt8}

theorem not_beginsHTTP_of_front {front stream : List UInt8} (isFront : front <+: stream)
    (notYet : ¬ BeginsHTTP front) (settled : 8 ≤ front.length ∨ couldMatchHTTP front = false) :
    ¬ BeginsHTTP stream := by
  rintro ⟨token, isToken, begins⟩
  have short : ∀ token ∈ httpTokens, token.length ≤ 8 := by decide
  have tokenShort := short token isToken
  by_cases shorter : front.length < token.length
  · have isPart := prefix_of_prefix_length_le isFront begins (Nat.le_of_lt shorter)
    rcases settled with isLong | isOther
    · omega
    · rw [couldMatchHTTP_of_part isToken isPart shorter] at isOther
      cases isOther
  · refine notYet ⟨token, isToken, ?_⟩
    exact prefix_of_prefix_length_le begins isFront (Nat.le_of_not_lt shorter)

theorem Probes.turn (probes : Probes run read) (chunk taken : List UInt8) :
    Probes (run.turn chunk taken) (read ++ chunk) := by
  cases isChecked : run.copier.checkedHTTP with
  | true =>
    have same : run.copier.probe chunk = (false, run.copier) := by
      rw [Copier.probe, if_pos isChecked]
    rw [CopyRun.turn, same, Bool.or_false]
    refine ⟨probes.short, fun notChecked => ?_, fun _ more => ?_⟩
    · exact absurd (isChecked.symm.trans notChecked) (by decide)
    · rw [append_assoc]
      exact probes.decided isChecked (chunk ++ more)
  | false =>
    obtain ⟨isRead, notHttp, -⟩ := probes.undecided isChecked
    have isProbe : run.copier.probe chunk =
        ((resolveHTTPProbe ((read ++ chunk).take 8)).1,
          { run.copier with
            checkedHTTP := (resolveHTTPProbe ((read ++ chunk).take 8)).2
            httpProbe := (read ++ chunk).take 8 }) := by
      rw [Copier.probe, if_neg (by simp [isChecked]), isRead]
      rfl
    have isFront (more : List UInt8) : (read ++ chunk).take 8 <+: read ++ chunk ++ more := by
      apply IsPrefix.trans _ (prefix_append _ more)
      apply take_prefix
    have short : ((read ++ chunk).take 8).length ≤ httpProbePrefixLimit := length_take_le _ _
    rw [CopyRun.turn, isProbe, notHttp, Bool.false_or]
    rcases resolveHTTPProbe_spec ((read ++ chunk).take 8) with
      ⟨⟨token, isToken, begins⟩, result⟩ | ⟨notYet, ⟨result, isShort⟩ | ⟨result, settled⟩⟩
    · rw [result]
      refine ⟨short, fun notChecked => ?_, fun _ more => ?_⟩
      · cases notChecked
      · exact iff_of_true rfl ⟨token, isToken, begins.trans (isFront more)⟩
    · rw [result]
      have whole : (read ++ chunk).take 8 = read ++ chunk := by
        rw [length_take] at isShort
        exact take_of_length_le (by omega)
      rw [whole] at notYet short ⊢
      exact ⟨short, fun _ => ⟨rfl, rfl, notYet⟩, fun isChecked => by cases isChecked⟩
    · rw [result]
      refine ⟨short, fun notChecked => ?_, fun _ more => ?_⟩
      · cases notChecked
      · refine iff_of_false Bool.false_ne_true ?_
        exact not_beginsHTTP_of_front (isFront more) notYet settled

theorem Probes.copy (probes : Probes run read) (turns : List (List UInt8 × Option Nat)) :
    Probes (run.copy turns) (read ++ bytesRead turns) := by
  induction turns generalizing run read with
  | nil => rwa [bytesRead, append_nil]
  | cons turn turns ih =>
    obtain ⟨chunk, _ | count⟩ := turn
    · rw [CopyRun.copy, bytesRead, ← append_assoc]
      exact ih (probes.turn chunk chunk)
    · exact probes.turn chunk (chunk.take count)

theorem output_copy (run : CopyRun) (turns : List (List UInt8 × Option Nat)) :
    (run.copy turns).output <+: run.output ++ bytesRead turns ∧
      ((∀ turn ∈ turns, turn.2 = none) →
        (run.copy turns).output = run.output ++ bytesRead turns) := by
  induction turns generalizing run with
  | nil => simp [CopyRun.copy, bytesRead]
  | cons turn _ ih =>
    obtain ⟨chunk, _ | count⟩ := turn
    · have later := ih (run.turn chunk chunk)
      rw [CopyRun.turn, append_assoc] at later
      exact ⟨later.1, fun taken => later.2 fun turn isTurn => taken turn (mem_cons_of_mem _ isTurn)⟩
    · refine ⟨(prefix_append_right_inj run.output).mpr <| take_prefix count chunk, ?_⟩
      intro taken
      cases taken _ mem_cons_self

/-- However the reads cut the stream and wherever a write fails: the task is marked exactly if what
was read begins like HTTP, the probe has room for its bytes, and the bytes written are those read,
up to the write that fails. -/
theorem copyBuffer_detects_http (turns : List (List UInt8 × Option Nat)) :
    ((CopyRun.new.copy turns).isHttp = true ↔ BeginsHTTP (bytesRead turns)) ∧
      (CopyRun.new.copy turns).copier.httpProbe.length ≤ httpProbePrefixLimit ∧
      (CopyRun.new.copy turns).output <+: bytesRead turns ∧
      ((∀ turn ∈ turns, turn.2 = none) → (CopyRun.new.copy turns).output = bytesRead turns) := by
  have start : Probes .new [] := by
    refine ⟨Nat.zero_le _, fun _ => ⟨rfl, rfl, ?_⟩, fun isChecked => ?_⟩
    · rintro ⟨token, isToken, begins⟩
      rw [prefix_nil.mp begins] at isToken
      exact absurd isToken (by decide)
    · cases isChecked
  have probes := start.copy turns
  refine ⟨?_, probes.short, output_copy .new turns⟩
  cases isChecked : (CopyRun.new.copy turns).copier.checkedHTTP with
  | true => simpa using probes.decided isChecked []
  | false =>
    obtain ⟨-, notHttp, notYet⟩ := probes.undecided isChecked
    exact iff_of_false (by simp [notHttp]) notYet

end DeepNps.Goroutine
