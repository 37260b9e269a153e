import DeepNps.BestChoice
import DeepNps.FileStoreFrames

/-!
# Routing a request to a host

A request is served by the host with the longest location, then the longest domain, then
an exact domain.  The candidates come from a map, in no fixed order.
-/

namespace DeepNps.File

open Text Option

def getIpByAddr (host : String) : String :=
  match host.toList with
  | '[' :: rest => if ']' ∈ rest then String.ofList (rest.takeWhile (· ≠ ']')) else ""
  | chars => if chars.count ':' = 1 then String.ofList (chars.takeWhile (· ≠ ':')) else host

/-- A request as the lookup sees it: `requestPathForHostLookup` and
`requestSchemeForHostLookup` have been applied. -/
structure HostRequest where
  host : String
  path : String
  scheme : String
  deriving DecidableEq, Repr

variable {Details : RecordKind → Type}

namespace Host

def domainLength (host : Host Details) : Nat := Text.byteLength (Text.trimPrefix host.host "*")

def routeLocation (host : Host Details) : String :=
  if host.location = "" then "/" else host.location

/-- The pattern of the host is the name or a star before an end part of it. -/
def matchesName (host : Host Details) (name : String) : Bool :=
  host.host = name ||
    (Text.hasPrefix host.host "*" && Text.hasSuffix name (Text.trimPrefix host.host "*"))

end Host

/-- The best match of the loop with the lengths kept next to it. -/
structure BestMatch (Details : RecordKind → Type) where
  record : Host Details
  domainLength : Nat
  locationLength : Nat

def Host.asBest (host : Host Details) : BestMatch Details where
  record := host
  domainLength := host.domainLength
  locationLength := Text.byteLength host.routeLocation

@[simp]
theorem Host.asBest_domainLength (host : Host Details) :
    host.asBest.domainLength = host.domainLength :=
  rfl

@[simp]
theorem Host.asBest_locationLength (host : Host Details) :
    host.asBest.locationLength = byteLength host.routeLocation :=
  rfl

/-- One turn of the loop of `GetInfoByHost`, for the name without its port. -/
def considerHost (name path scheme : String) (best : Option (BestMatch Details))
    (host : Host Details) : Option (BestMatch Details) :=
  let hostScheme := normalizedHostScheme host.scheme
  if host.isClose ∨ (hostScheme ≠ "all" ∧ hostScheme ≠ scheme) then best
  else if Text.byteLength name < host.domainLength then best
  else if ¬ host.matchesName name then best
  else if ¬ Text.hasPrefix path host.routeLocation then best
  else
    let current := host.asBest
    match best with
    | none => some current
    | some best =>
        if best.locationLength < current.locationLength then some current
        else if current.locationLength = best.locationLength then
          if best.domainLength < current.domainLength then some current
          else if host.host = name then some current
          else some best
        else some best

namespace Store

/-- The loop of `GetInfoByHost` over candidate ids in some order. -/
def selectHost (store : Store Details) (ids : List Int) (request : HostRequest) :
    Option (Host Details) :=
  ((ids.filterMap store.hosts.get).foldl
    (considerHost (getIpByAddr request.host) request.path request.scheme) none).map BestMatch.record

def getInfoByHost (env : StoreEnv Details) (store : Store Details) (request : HostRequest) :
    Option (Host Details) :=
  store.selectHost (store.hostIndex.lookup env.lower (getIpByAddr request.host)) request

end Store

/-! ## The loop chooses by rank -/

namespace Host

def serves (name path scheme : String) (host : Host Details) : Bool :=
  ¬ (host.isClose ∨
      (normalizedHostScheme host.scheme ≠ "all" ∧ normalizedHostScheme host.scheme ≠ scheme)) &&
    ¬ (Text.byteLength name < host.domainLength) &&
    host.matchesName name && Text.hasPrefix path host.routeLocation

def beats (name : String) (host kept : Host Details) : Bool :=
  Text.byteLength kept.routeLocation < Text.byteLength host.routeLocation ||
    (Text.byteLength host.routeLocation = Text.byteLength kept.routeLocation &&
      (kept.domainLength < host.domainLength || host.host = name))

/-- Longest location, then longest domain, then an exact domain. -/
def rank (name : String) (host : Host Details) : Nat ×ₗ Nat ×ₗ Bool :=
  toLex (Text.byteLength host.routeLocation, toLex (host.domainLength, decide (host.host = name)))

end Host

section Loop

variable (name path scheme : String)

theorem considerHost_eq (best : Option (Host Details)) (host : Host Details) :
    considerHost name path scheme (best.map Host.asBest) host =
      (if host.serves name path scheme then BestChoice.challenge (Host.beats name) best host
        else best).map Host.asBest := by
  by_cases isServing : host.serves name path scheme = true
  · have checks := isServing
    simp only [Host.serves, Bool.and_eq_true, decide_eq_true_eq] at checks
    obtain ⟨⟨⟨fits, short⟩, isMatch⟩, inside⟩ := checks
    rw [considerHost, if_neg fits, if_neg short, if_neg (by simp [isMatch]),
      if_neg (by simp [inside]), if_pos isServing]
    cases best with
    | none => rfl
    | some best =>
      simp only [map_some, BestChoice.challenge, Host.beats, Host.asBest_locationLength,
        Host.asBest_domainLength]
      by_cases longer : byteLength best.routeLocation < byteLength host.routeLocation
      · simp [longer]
      · by_cases same : byteLength host.routeLocation = byteLength best.routeLocation
        · by_cases wider : best.domainLength < host.domainLength
          · simp [same, wider]
          · by_cases exact : host.host = name <;> simp [same, wider, exact]
        · simp [longer, same]
  · have checks := isServing
    simp only [Host.serves, Bool.and_eq_true, decide_eq_true_eq, not_and] at checks
    rw [considerHost, if_neg isServing]
    by_cases fits : host.isClose = true ∨
        normalizedHostScheme host.scheme ≠ "all" ∧ normalizedHostScheme host.scheme ≠ scheme
    · rw [if_pos fits]
    · rw [if_neg fits]
      by_cases short : byteLength name < host.domainLength
      · rw [if_pos short]
      · rw [if_neg short]
        by_cases isMatch : host.matchesName name = true
        · rw [if_neg (not_not.mpr isMatch), if_pos (checks ⟨⟨fits, short⟩, isMatch⟩)]
        · rw [if_pos isMatch]

theorem foldl_considerHost (best : Option (Host Details)) (hosts : List (Host Details)) :
    hosts.foldl (considerHost name path scheme) (best.map Host.asBest) =
      ((hosts.filter (Host.serves name path scheme)).foldl
        (BestChoice.challenge (Host.beats name)) best).map Host.asBest := by
  induction hosts generalizing best with
  | nil => rfl
  | cons host _ ih =>
    rw [List.foldl_cons, considerHost_eq, ih, List.filter_cons]
    by_cases isServing : host.serves name path scheme = true
    · simp [isServing]
    · simp [isServing]

end Loop

theorem Store.selectHost_eq (store : Store Details) (ids : List Int) (request : HostRequest) :
    store.selectHost ids request =
      BestChoice.choose (Host.beats (getIpByAddr request.host))
        ((ids.filterMap store.hosts.get).filter
          (Host.serves (getIpByAddr request.host) request.path request.scheme)) := by
  rw [selectHost, BestChoice.choose]
  have loop := foldl_considerHost (getIpByAddr request.host) request.path request.scheme
    (none : Option (Host Details)) (ids.filterMap store.hosts.get)
  rw [map_none] at loop
  rw [loop, map_map]
  exact map_id'

section Rank

variable {name path scheme : String}

theorem Host.serves_iff {host : Host Details} : host.serves name path scheme = true ↔
    host.isClose = false ∧
      (normalizedHostScheme host.scheme = "all" ∨ normalizedHostScheme host.scheme = scheme) ∧
      host.domainLength ≤ byteLength name ∧ host.matchesName name = true ∧
      hasPrefix path host.routeLocation = true := by
  simp only [Host.serves, Bool.and_eq_true, decide_eq_true_eq, not_or, not_and, not_not, not_lt,
    Bool.not_eq_true]
  constructor
  · rintro ⟨⟨⟨⟨isOpen, fits⟩, short⟩, isMatch⟩, inside⟩
    refine ⟨isOpen, ?_, short, isMatch, inside⟩
    by_cases isAll : normalizedHostScheme host.scheme = "all"
    · exact .inl isAll
    · exact .inr (fits isAll)
  · rintro ⟨isOpen, fits, short, isMatch, inside⟩
    exact ⟨⟨⟨⟨isOpen, fun isOne => fits.resolve_left isOne⟩, short⟩, isMatch⟩, inside⟩

theorem Host.domainLength_of_exact {host : Host Details}
    (plain : hasPrefix name "*" = false) (exact : host.host = name) :
    host.domainLength = byteLength name := by
  simp [domainLength, exact, trimPrefix, plain]

theorem Host.ranked (plain : hasPrefix name "*" = false) :
    BestChoice.Ranked (Host.beats name) ((Host.rank name : Host Details → _))
      (fun host => host.serves name path scheme = true) where
  beaten := by
    intro _ _ _ keptServes isBeaten
    simp only [rank, Prod.Lex.toLex_le_toLex]
    simp only [beats, Bool.or_eq_true, Bool.and_eq_true, decide_eq_true_eq] at isBeaten
    rcases isBeaten with longer | ⟨same, wider | exact⟩
    · exact .inl longer
    · exact .inr ⟨same.symm, .inl wider⟩
    · -- no domain that serves is longer than the name
      have keptShort := (serves_iff.mp keptServes).2.2.1
      rw [← domainLength_of_exact plain exact] at keptShort
      refine .inr ⟨same.symm, ?_⟩
      rcases Nat.lt_or_eq_of_le keptShort with shorter | equal
      · exact .inl shorter
      · exact .inr ⟨equal, by simp [exact]⟩
  unbeaten := by
    intro _ _ _ _ notBeaten
    simp only [rank, Prod.Lex.toLex_le_toLex]
    simp only [beats, Bool.or_eq_false_iff, Bool.and_eq_false_iff, decide_eq_false_iff_not,
      not_lt] at notBeaten
    obtain ⟨notLonger, rest⟩ := notBeaten
    rcases Nat.lt_or_eq_of_le notLonger with shorter | equal
    · exact .inl shorter
    · obtain ⟨notWider, notExact⟩ := rest.resolve_left (by simp [equal])
      refine .inr ⟨equal, ?_⟩
      rcases Nat.lt_or_eq_of_le notWider with narrower | same
      · exact .inl narrower
      · exact .inr ⟨same, by simp [notExact]⟩

theorem Host.same_pattern_of_star {host other : Host Details}
    (hostEnds : hasPrefix host.host "*" = true ∧ hasSuffix name (trimPrefix host.host "*") = true)
    (otherEnds : hasPrefix other.host "*" = true ∧
      hasSuffix name (trimPrefix other.host "*") = true)
    (sameDomain : host.domainLength = other.domainLength) : host.host = other.host := by
  have sameEnd := hasSuffix_unique hostEnds.2 otherEnds.2 sameDomain
  rw [← String.toList_inj, eq_append_trimPrefix hostEnds.1, eq_append_trimPrefix otherEnds.1,
    sameEnd]

theorem Host.same_pattern {host other : Host Details} (hostMatches : host.matchesName name = true)
    (otherMatches : other.matchesName name = true)
    (sameDomain : host.domainLength = other.domainLength)
    (sameExact : host.host = name ↔ other.host = name) : host.host = other.host := by
  by_cases exact : host.host = name
  · exact exact.trans (sameExact.mp exact).symm
  · simp only [matchesName, exact, mt sameExact.mpr exact, decide_false, Bool.false_or,
      Bool.and_eq_true] at hostMatches otherMatches
    exact same_pattern_of_star hostMatches otherMatches sameDomain

theorem Host.same_route_of_rank {host other : Host Details}
    (hostServes : host.serves name path scheme = true)
    (otherServes : other.serves name path scheme = true)
    (sameRank : host.rank name = other.rank name) :
    host.host = other.host ∧ host.routeLocation = other.routeLocation := by
  obtain ⟨-, -, -, hostMatches, hostInside⟩ := serves_iff.mp hostServes
  obtain ⟨-, -, -, otherMatches, otherInside⟩ := serves_iff.mp otherServes
  obtain ⟨sameLocation, sameDomain, sameExact⟩ :
      byteLength host.routeLocation = byteLength other.routeLocation ∧
        host.domainLength = other.domainLength ∧ (host.host = name ↔ other.host = name) := by
    simpa [rank] using sameRank
  exact ⟨same_pattern hostMatches otherMatches sameDomain sameExact,
    hasPrefix_unique hostInside otherInside sameLocation⟩

end Rank

/-! ## Hosts whose routes are apart -/

/-- Two hosts of one domain and location never serve the same scheme. -/
def RoutesApart (hosts : Table (Host.id : Host Details → Int)) : Prop :=
  ∀ host ∈ hosts.records, ∀ other ∈ hosts.records,
    host.host = other.host →
    normalizedHostLocation host.location = normalizedHostLocation other.location →
    (normalizedHostScheme host.scheme = "all" ∨ normalizedHostScheme other.scheme = "all" ∨
      normalizedHostScheme host.scheme = normalizedHostScheme other.scheme) →
    host = other

theorem normalizedHostLocation_routeLocation (location : String) :
    normalizedHostLocation (if location = "" then "/" else location) =
      normalizedHostLocation location := by
  by_cases isEmpty : location = ""
  · subst isEmpty
    decide
  · rw [if_neg isEmpty]

@[simp]
theorem normalizedHostScheme_idem (scheme : String) :
    normalizedHostScheme (normalizedHostScheme scheme) = normalizedHostScheme scheme := by
  have cases : normalizedHostScheme scheme = "http" ∨ normalizedHostScheme scheme = "https" ∨
      normalizedHostScheme scheme = "all" := by
    rw [normalizedHostScheme]
    split_ifs with isOne
    · exact isOne.imp_right .inl
    · exact .inr (.inr rfl)
  rcases cases with isHttp | isHttps | isAll
  · rw [isHttp]
    decide
  · rw [isHttps]
    decide
  · rw [isAll]
    decide

variable {hosts : Table (Host.id : Host Details → Int)}

theorem RoutesApart.untied (apart : RoutesApart hosts) {name path scheme : String}
    {host other : Host Details} (isHost : host ∈ hosts.records) (isOther : other ∈ hosts.records)
    (hostServes : host.serves name path scheme = true)
    (otherServes : other.serves name path scheme = true)
    (sameRank : host.rank name = other.rank name) : host = other := by
  obtain ⟨sameDomain, sameLocation⟩ := Host.same_route_of_rank hostServes otherServes sameRank
  refine apart host isHost other isOther sameDomain ?_ ?_
  · rw [← normalizedHostLocation_routeLocation host.location,
      ← normalizedHostLocation_routeLocation other.location]
    exact congrArg normalizedHostLocation sameLocation
  · obtain ⟨-, hostScheme, -⟩ := Host.serves_iff.mp hostServes
    obtain ⟨-, otherScheme, -⟩ := Host.serves_iff.mp otherServes
    rcases hostScheme with isAll | isScheme
    · exact .inl isAll
    · rcases otherScheme with otherAll | otherIsScheme
      · exact .inr (.inl otherAll)
      · exact .inr (.inr (isScheme.trans otherIsScheme.symm))

theorem RoutesApart.delete (apart : RoutesApart hosts) (id : Int) :
    RoutesApart (hosts.delete id) := by
  intro host isHost other isOther
  exact apart host (Table.mem_delete.mp isHost).1 other (Table.mem_delete.mp isOther).1

theorem RoutesApart.store (apart : RoutesApart hosts) {new : Host Details}
    (free : ∀ other ∈ hosts.records, other.id ≠ new.id → other.host = new.host →
      normalizedHostLocation other.location = normalizedHostLocation new.location →
      ¬ (normalizedHostScheme other.scheme = "all" ∨ normalizedHostScheme new.scheme = "all" ∨
        normalizedHostScheme other.scheme = normalizedHostScheme new.scheme)) :
    RoutesApart (hosts.store new) := by
  intro host isHost other isOther sameDomain sameLocation common
  rcases Table.mem_store.mp isHost with rfl | ⟨hostStored, hostOther⟩
  · rcases Table.mem_store.mp isOther with rfl | ⟨otherStored, otherOther⟩
    · rfl
    · refine absurd ?_ (free other otherStored otherOther sameDomain.symm sameLocation.symm)
      rcases common with isAll | otherAll | same
      · exact .inr (.inl isAll)
      · exact .inl otherAll
      · exact .inr (.inr same.symm)
  · rcases Table.mem_store.mp isOther with rfl | ⟨otherStored, -⟩
    · exact absurd common (free host hostStored hostOther sameDomain sameLocation)
    · exact apart host hostStored other otherStored sameDomain sameLocation common

end DeepNps.File
