import DeepNps.LabelledRuns

/-!
# Deferred persistence

While a scope is open, a request to store a table only marks it, and the end of the last
scope writes the marked tables after its critical section.
-/

namespace DeepNps.File

open Function List

inductive StoreTable where
  | users
  | clients
  | tasks
  | hosts
  | global
deriving DecidableEq

/-- `deferredStores`: the number of open scopes and the tables marked in them. -/
structure DeferredStores where
  depth : Nat := 0
  dirty : StoreTable → Bool := fun _ => false

def DeferredStores.releaseDeferredStoreMask (stores : DeferredStores) :
    (StoreTable → Bool) × DeferredStores :=
  if stores.depth = 0 then (fun _ => false, stores)
  else if stores.depth - 1 ≠ 0 then
    (fun _ => false, { stores with depth := stores.depth - 1 })
  else (stores.dirty, { depth := 0 })

def DeferredStores.deferStore (stores : DeferredStores) (table : StoreTable) :
    Bool × DeferredStores :=
  if stores.depth = 0 then (false, stores)
  else (true, { stores with dirty := update stores.dirty table true })

/-- The tables `flushDeferredStoreMask` writes, one after the other. -/
def flushDeferredStoreMask (mask : StoreTable → Bool) : List StoreTable :=
  [.users, .clients, .tasks, .hosts, .global].filter mask

/-- The requests and the starts of writes. -/
inductive StoreMark where
  | request (table : StoreTable)
  | write (table : StoreTable)
deriving DecidableEq

/-- The database with the tables that each goroutine still writes in its call, and the
marks, newest first. -/
structure StoreSystem where
  stores : DeferredStores := {}
  writes : Nat → List StoreTable := fun _ => []
  log : List StoreMark := []

/-- A scope ends in the same way if its function returns, fails or panics.  The lock of a table
orders its writes, so a write is one event. -/
inductive PersistEvent where
  | beginDeferredPersistence
  | endDeferredPersistence (goroutine : Nat)
  | store (goroutine : Nat) (table : StoreTable)
  | write (goroutine : Nat)

namespace StoreSystem

def step (system : StoreSystem) : PersistEvent → Option StoreSystem
  | .beginDeferredPersistence =>
      some { system with stores := { system.stores with depth := system.stores.depth + 1 } }
  | .endDeferredPersistence goroutine =>
      if system.stores.depth ≠ 0 ∧ system.writes goroutine = [] then
        let (mask, stores) := system.stores.releaseDeferredStoreMask
        some { system with
          stores
          writes := update system.writes goroutine (flushDeferredStoreMask mask) }
      else none
  | .store goroutine table =>
      if system.writes goroutine = [] then
        let (deferred, stores) := system.stores.deferStore table
        some {
          stores
          writes := if deferred then system.writes
            else update system.writes goroutine [table]
          log := .request table :: system.log }
      else none
  | .write goroutine =>
      match system.writes goroutine with
      | table :: rest =>
          some { system with
            writes := update system.writes goroutine rest
            log := .write table :: system.log }
      | [] => none

/-- A write of the table is due: at the end of the open scopes, or in a call that runs. -/
def Owed (system : StoreSystem) (table : StoreTable) : Prop :=
  0 < system.stores.depth ∧ system.stores.dirty table = true ∨
    ∃ goroutine, table ∈ system.writes goroutine

/-- Every request is followed by a write or by one that is due. -/
def Followed (system : StoreSystem) : Prop :=
  ∀ newer table older, system.log = newer ++ .request table :: older →
    .write table ∈ newer ∨ system.Owed table

variable {system next last : StoreSystem} {goroutine : Nat} {table : StoreTable}

theorem mem_flushDeferredStoreMask {mask : StoreTable → Bool} (isMarked : mask table = true) :
    table ∈ flushDeferredStoreMask mask := by
  refine mem_filter.mpr ⟨?_, isMarked⟩
  cases table <;> simp

theorem Followed.cons (followed : system.Followed) {mark : StoreMark}
    (log : next.log = mark :: system.log)
    (requested : ∀ table, mark = .request table → next.Owed table)
    (keeps : ∀ table, system.Owed table → mark = .write table ∨ next.Owed table) :
    next.Followed := by
  intro newer table older isLog
  rw [log] at isLog
  cases newer with
  | nil => exact .inr (requested table (cons.inj isLog).1)
  | cons _ newer =>
    obtain ⟨rfl, isOlder⟩ := cons.inj isLog
    obtain isWritten | isOwed := followed newer table older isOlder
    · exact .inl (mem_cons_of_mem _ isWritten)
    · obtain rfl | stillOwed := keeps table isOwed
      · exact .inl mem_cons_self
      · exact .inr stillOwed

theorem exists_mem_update {writes : Nat → List StoreTable} {tables : List StoreTable}
    (keeps : table ∈ writes goroutine → table ∈ tables) (isDue : ∃ other, table ∈ writes other) :
    ∃ other, table ∈ update writes goroutine tables other := by
  obtain ⟨other, isOther⟩ := isDue
  refine ⟨other, ?_⟩
  rw [update_apply]
  split_ifs with isHere
  · exact keeps (isHere ▸ isOther)
  · exact isOther

theorem Followed.step (followed : system.Followed) {event : PersistEvent}
    (stepEq : system.step event = some next) : next.Followed := by
  revert stepEq
  fun_cases StoreSystem.step system event with
  | case1 =>
    rintro ⟨⟩
    intro newer table older isLog
    exact (followed newer table older isLog).imp_right
      (Or.imp_left fun isDirty => ⟨Nat.succ_pos _, isDirty.2⟩)
  | case2 goroutine enabled mask stores released =>
    rintro ⟨⟩
    intro newer table older isLog
    refine (followed newer table older isLog).imp_right (Or.rec ?_ fun isDue => .inr
      (exists_mem_update (by simp [enabled.2]) isDue))
    rintro ⟨-, isDirty⟩
    rw [DeferredStores.releaseDeferredStoreMask, if_neg enabled.1] at released
    split_ifs at released with isLast <;> cases released
    · exact .inl ⟨Nat.pos_of_ne_zero isLast, isDirty⟩
    · exact .inr ⟨goroutine, by
        simpa only [update_self] using mem_flushDeferredStoreMask isDirty⟩
  | case4 goroutine table isIdle deferred stores isStores =>
    rintro ⟨⟩
    rw [DeferredStores.deferStore] at isStores
    split_ifs at isStores with isOpen <;> cases isStores
    · refine followed.cons rfl ?_ fun other isOwed => ?_
      · rintro _ ⟨⟩
        exact .inr ⟨goroutine, by simp⟩
      · exact .inr (isOwed.imp_right (exists_mem_update (by simp [isIdle])))
    · refine followed.cons rfl ?_ fun other isOwed => .inr (isOwed.imp_left ?_)
      · rintro _ ⟨⟩
        exact .inl ⟨Nat.pos_of_ne_zero isOpen, update_self ..⟩
      · rintro ⟨isPositive, isDirty⟩
        exact ⟨isPositive, by simp [update_apply, isDirty]⟩
  | case6 goroutine table rest isWrites =>
    rintro ⟨⟩
    refine followed.cons rfl nofun fun other isOwed => ?_
    by_cases isSame : other = table
    · exact .inl (congrArg _ isSame.symm)
    · exact .inr (isOwed.imp_right (exists_mem_update (by simp [isWrites, isSame])))
  | _ => nofun

def StaysOpen (system : StoreSystem) (event : PersistEvent) : Prop :=
  ∀ next, system.step event = some next → 0 < next.stores.depth

/-- While a scope stays open no call gets a table to write. -/
structure Since (start system : StoreSystem) : Prop where
  isOpen : 0 < system.stores.depth
  writes : ∀ goroutine, system.writes goroutine ⊆ start.writes goroutine
  log : ∃ newer, system.log = newer ++ start.log ∧
    ∀ table, .write table ∈ newer → ∃ goroutine, table ∈ start.writes goroutine

theorem Since.update_subset {start : StoreSystem} (since : start.Since system)
    {tables : List StoreTable} (isHere : tables ⊆ start.writes goroutine) (other : Nat) :
    update system.writes goroutine tables other ⊆ start.writes other := by
  rw [update_apply]
  split_ifs with isSame
  · exact isSame ▸ isHere
  · exact since.writes other

theorem Since.step {start : StoreSystem} (since : start.Since system) {event : PersistEvent}
    (stays : system.StaysOpen event) (stepEq : system.step event = some next) :
    start.Since next := by
  have isOpen := stays next stepEq
  obtain ⟨newer, isLog, isDue⟩ := since.log
  revert stepEq
  fun_cases StoreSystem.step system event with
  | case1 =>
    rintro ⟨⟩
    exact { since with isOpen }
  | case2 goroutine enabled mask stores released =>
    rintro ⟨⟩
    rw [DeferredStores.releaseDeferredStoreMask, if_neg enabled.1] at released
    split_ifs at released <;> cases released
    · exact ⟨isOpen, since.update_subset (nil_subset _), since.log⟩
    · cases isOpen
  | case4 goroutine table isIdle deferred stores isStores =>
    rintro ⟨⟩
    rw [DeferredStores.deferStore, if_neg (Nat.ne_of_gt since.isOpen)] at isStores
    cases isStores
    exact ⟨isOpen, since.writes, .request table :: newer, congrArg _ isLog, by simpa using isDue⟩
  | case6 goroutine table rest isWrites =>
    rintro ⟨⟩
    have isHere : table :: rest ⊆ start.writes goroutine := isWrites ▸ since.writes goroutine
    refine ⟨isOpen, since.update_subset (subset_of_cons_subset isHere), .write table :: newer,
      congrArg _ isLog, fun other isNew => ?_⟩
    obtain isFirst | isOld := mem_cons.mp isNew
    · cases isFirst
      exact ⟨goroutine, isHere mem_cons_self⟩
    · exact isDue other isOld
  | _ => nofun

/-- Every request is followed by a write of its table, or one is due at the end of the open scopes
or in a call that runs; while a scope stays open only tables due before are written. -/
theorem stores_followed {events : List PersistEvent}
    (reaches : Runs.execute step {} events = some system) :
    system.Followed ∧ ∀ interval last, 0 < system.stores.depth →
      Runs.Meets step StaysOpen system interval →
      Runs.execute step system interval = some last → system.Since last := by
  refine ⟨Runs.invariant_of_execute _ (fun _ _ _ followed => followed.step) ?_ reaches, ?_⟩
  · intro _ _ _ isLog
    simp at isLog
  · intro _ _ isOpen stays leads
    exact Runs.invariant_of_meets _ (fun _ _ _ since => since.step)
      ⟨isOpen, fun _ => List.Subset.refl _, [], rfl, nofun⟩ stays leads

theorem stores_followed_scope : ∃ system last : StoreSystem,
    Runs.execute step {} [.beginDeferredPersistence, .store 1 .users] = some system ∧
      system.step (.store 2 .tasks) = some last ∧ system.Followed ∧ system.Since last := by
  have reaches : Runs.execute step {} [.beginDeferredPersistence, .store 1 .users] = some _ := rfl
  obtain ⟨followed, since⟩ := stores_followed reaches
  refine ⟨_, _, reaches, rfl, followed, since [.store 2 .tasks] _ (by decide) ⟨?_, ?_⟩ rfl⟩
  · rintro _ ⟨⟩
    decide
  · exact fun _ _ => trivial

/-- The end of a scope still writes the users when another scope has opened in which they
were marked. -/
theorem marked_table_written : ∃ system next : StoreSystem,
    Runs.execute step {} [.beginDeferredPersistence, .store 1 .users, .endDeferredPersistence 1,
        .beginDeferredPersistence, .store 2 .users] = some system ∧
      0 < system.stores.depth ∧ system.stores.dirty .users = true ∧
      system.step (.write 1) = some next ∧ next.log = .write .users :: system.log ∧
      0 < next.stores.depth :=
  ⟨_, _, rfl, by decide, rfl, rfl, rfl, by decide⟩

end StoreSystem

end DeepNps.File
