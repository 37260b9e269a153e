import DeepNps.MuxConn

/-!
# Stream ids

Both ends count through the even numbers: the end that starts at -1 is past the restart
limit at once, because `math.MaxInt32 - curID` overflows, and restarts at zero, because no
constructor stores `isInitiator`.
-/

namespace DeepNps.Mux

open List

def maxInt32 : Int32 := 2147483647

def startId (isInitiator : Bool) : Int32 := if isInitiator then -1 else 0

def nextId (isInitiator : Bool) (curID : Int32) : Int32 :=
  (if maxInt32 - curID < 10000 then startId isInitiator else curID) + 2

def getIdLoop (isInitiator : Bool) (connMap : ConnMap) : Nat → Int32 → Option Int32
  | 0, _ => none
  | fuel + 1, curID =>
      let id := nextId isInitiator curID
      if (connMap.get id).isSome then getIdLoop isInitiator connMap fuel id else some id

/-- `getId`.  Among one id more than there are connections one is free, so the
recursion is no deeper. -/
def getId (isInitiator : Bool) (connMap : ConnMap) (curID : Int32) : Option Int32 :=
  getIdLoop isInitiator connMap (connMap.size + 1) curID

def upcomingIds (isInitiator : Bool) : Nat → Int32 → List Int32
  | 0, _ => []
  | count + 1, curID =>
      nextId isInitiator curID :: upcomingIds isInitiator count (nextId isInitiator curID)

theorem getIdLoop_eq_find (isInitiator : Bool) (connMap : ConnMap) (fuel : Nat) (curID : Int32) :
    getIdLoop isInitiator connMap fuel curID =
      (upcomingIds isInitiator fuel curID).find? fun id => !(connMap.get id).isSome := by
  induction fuel generalizing curID with
  | zero => rfl
  | succ _ ih =>
    rw [getIdLoop, upcomingIds, find?_cons, ih]
    cases (connMap.get (nextId isInitiator curID)).isSome <;> rfl

variable {connMap : ConnMap} {curID id : Int32}

theorem getId_spec {isInitiator : Bool} (isId : getId isInitiator connMap curID = some id) :
    connMap.get id = none ∧ id ∈ upcomingIds isInitiator (connMap.size + 1) curID := by
  rw [getId, getIdLoop_eq_find] at isId
  have isFree := find?_some isId
  exact ⟨by simpa using isFree, mem_of_find?_eq_some isId⟩

def idCount : Nat := 1073736824

def idAt (place : Nat) : Int32 := Int32.ofNat (2 * (place % idCount + 1))

/-- The counter is about to move to the id at some place. -/
def Counting (curID : Int32) : Prop := ∃ place, nextId false curID = idAt place

theorem idAt_toInt (place : Nat) : (idAt place).toInt = 2 * (place % idCount + 1) := by
  have small : place % idCount < idCount := Nat.mod_lt _ (by decide)
  have bound : 2 * (place % idCount + 1) < 2 ^ 31 := by
    simp only [idCount] at small ⊢
    omega
  rw [idAt, Int32.toInt_ofNat_of_lt bound]
  norm_cast

theorem idAt_pos (place : Nat) : 0 < idAt place := by
  rw [Int32.lt_iff_toInt_lt, idAt_toInt]
  show (0 : Int) < _
  omega

theorem mod_of_idAt_eq {first second : Nat} (same : idAt first = idAt second) :
    first % idCount = second % idCount := by
  have values := congrArg Int32.toInt same
  rw [idAt_toInt, idAt_toInt] at values
  omega

theorem nextId_idAt (place : Nat) : nextId false (idAt place) = idAt (place + 1) := by
  have value := idAt_toInt place
  have nextValue := idAt_toInt (place + 1)
  have small : place % idCount < idCount := Nat.mod_lt _ (by decide)
  have isMax : maxInt32.toInt = 2147483647 := rfl
  have limit : (10000 : Int32).toInt = 10000 := rfl
  have left : (maxInt32 - idAt place).toInt = maxInt32.toInt - (idAt place).toInt := by
    refine Int32.toInt_sub_of_le _ _ (Int32.le_of_lt (idAt_pos place)) ?_
    rw [Int32.le_iff_toInt_le, value, isMax]
    simp only [idCount] at small ⊢
    omega
  apply Int32.toInt_inj.mp
  rw [nextId, nextValue]
  simp only [Int32.lt_iff_toInt_lt, left, isMax, limit, value]
  split_ifs with restarts
  · have start : (startId false + 2 : Int32).toInt = 2 := rfl
    rw [start]
    simp only [idCount] at small restarts ⊢
    omega
  · have step : (2 : Int32).toInt = 2 := rfl
    rw [Int32.toInt_add, value, step]
    simp only [idCount] at small restarts ⊢
    rw [Int.bmod_eq_of_le (by omega) (by omega)]
    omega

theorem upcomingIds_eq {place : Nat} (atPlace : nextId false curID = idAt place) (count : Nat) :
    upcomingIds false count curID = (range' place count).map idAt := by
  induction count generalizing curID place with
  | zero => rfl
  | succ _ ih =>
    rw [upcomingIds, atPlace, ih (nextId_idAt place)]
    rfl

theorem getId_idAt (counting : Counting curID) (isId : getId false connMap curID = some id) :
    ∃ place, id = idAt place := by
  obtain ⟨_, atPlace⟩ := counting
  have isUpcoming := (getId_spec isId).2
  rw [upcomingIds_eq atPlace] at isUpcoming
  obtain ⟨other, -, isId⟩ := mem_map.mp isUpcoming
  exact ⟨other, isId.symm⟩

theorem getId_isSome (counting : Counting curID) (few : connMap.size < idCount) :
    (getId false connMap curID).isSome := by
  obtain ⟨_, atPlace⟩ := counting
  have distinct : (upcomingIds false (connMap.size + 1) curID).Nodup := by
    rw [upcomingIds_eq atPlace]
    refine List.Nodup.map_on ?_ nodup_range'
    intro _ firstIn _ secondIn same
    rw [mem_range'_1] at firstIn secondIn
    have places := mod_of_idAt_eq same
    -- two places less than one round apart have different remainders
    simp only [idCount] at places few
    omega
  by_contra notSome
  rw [getId, getIdLoop_eq_find, find?_isSome] at notSome
  push Not at notSome
  have registered : upcomingIds false (connMap.size + 1) curID ⊆ connMap.cMap.map Prod.fst := by
    intro id isUpcoming
    have isRegistered : connMap.get id ≠ none := by simpa using notSome id isUpcoming
    obtain ⟨_, found⟩ := Option.ne_none_iff_exists'.mp isRegistered
    exact ConnMap.mem_keys_of_get found
  have tooMany := (distinct.subperm registered).length_le
  rw [upcomingIds_eq atPlace, length_map, length_range', length_map] at tooMany
  exact absurd tooMany (Nat.not_succ_le_self _)

theorem upcomingIds_add (isInitiator : Bool) (curID : Int32) (first second : Nat) :
    ∃ rest, upcomingIds isInitiator (first + second) curID =
      upcomingIds isInitiator first curID ++ rest := by
  induction first generalizing curID with
  | zero => exact ⟨_, rfl⟩
  | succ _ ih =>
    obtain ⟨rest, isRest⟩ := ih (nextId isInitiator curID)
    exact ⟨rest, by rw [Nat.succ_add_eq_add_succ, Nat.add_succ, upcomingIds, isRest]; rfl⟩

theorem getIdLoop_eq_getId (counting : Counting curID) (few : connMap.size < idCount) {fuel : Nat}
    (enough : connMap.size < fuel) :
    getIdLoop false connMap fuel curID = getId false connMap curID := by
  obtain ⟨more, isFuel⟩ := Nat.exists_eq_add_of_le (Nat.succ_le_of_lt enough)
  obtain ⟨_, isRest⟩ := upcomingIds_add false curID (connMap.size + 1) more
  obtain ⟨_, isId⟩ := Option.isSome_iff_exists.mp (getId_isSome counting few)
  have found := isId
  rw [getId, getIdLoop_eq_find] at found
  rw [isId, getIdLoop_eq_find, isFuel, isRest, find?_append, found]
  rfl

end DeepNps.Mux
