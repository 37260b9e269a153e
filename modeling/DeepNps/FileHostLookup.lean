import DeepNps.FileHostIndex
import DeepNps.FileHostRouting

/-!
# Looking up the host of a request is complete

The index compares whole labels, and the scan of `GetInfoByHost` compares characters: a
pattern whose star stands before a part of a label is missed.
-/

namespace DeepNps

open List Option

namespace Text

theorem dropWhile_append_cons {p : Char → Bool} {char : Char} (stops : p char = false)
    (front rest : List Char) :
    (front ++ char :: rest).dropWhile p = front.dropWhile p ++ char :: rest := by
  have stays : (char :: rest).dropWhile p = char :: rest := by simp [stops]
  rw [dropWhile_append, stays]
  split_ifs with isEmpty
  · rw [isEmpty_iff.mp isEmpty, nil_append]
  · rfl

theorem trimChars_append_cons {char : Char} (stops : isSpace char = false)
    (front rest : List Char) :
    trimChars (front ++ char :: rest) =
      front.dropWhile isSpace ++ char :: rest.rdropWhile isSpace := by
  rw [trimChars, dropWhile_append_cons stops, rdropWhile, reverse_append, reverse_cons,
    append_assoc, singleton_append, dropWhile_append_cons stops]
  simp [rdropWhile]

theorem trimPrefix_of_head {text front : String} {first : Char} {rest : List Char}
    (begins : front.toList = first :: rest) (differs : text.toList.head? ≠ some first) :
    trimPrefix text front = text := by
  refine if_neg fun isFront => differs ?_
  obtain ⟨_, whole⟩ := isPrefixOf_iff_prefix.mp isFront
  rw [← whole, begins]
  rfl

theorem toList_trimPrefix {text front : String} {rest : List Char}
    (whole : text.toList = front.toList ++ rest) : (trimPrefix text front).toList = rest := by
  have isFront : hasPrefix text front = true := by
    rw [hasPrefix, isPrefixOf_iff_prefix, whole]
    exact prefix_append _ _
  rw [trimPrefix, if_pos isFront, String.toList_ofList, whole, drop_left]

end Text

open Text

namespace File

/-- Dots, stars and white space are the lower case of themselves and of nothing else. -/
structure LowersLetters (lower : Char → Char) : Prop where
  dot : lower '.' = '.'
  star : ∀ char, lower char = '*' ↔ char = '*'
  space : ∀ char, Text.isSpace (lower char) = Text.isSpace char

namespace LowersLetters

variable {lower : Char → Char}

theorem trimChars_map (lowers : LowersLetters lower) (chars : List Char) :
    trimChars (chars.map lower) = (trimChars chars).map lower := by
  have same : isSpace ∘ lower = isSpace := funext lowers.space
  rw [trimChars, trimChars, dropWhile_map, same, rdropWhile, rdropWhile,
    ← map_reverse, dropWhile_map, same, map_reverse]

end LowersLetters

namespace DomainIndex

def labels (chars : List Char) : List String :=
  if chars = [] then [] else ((chars.splitOn '.').map String.ofList).reverse

variable {lower : Char → Char}

theorem splitDomain_eq (domain : String) :
    splitDomain lower domain = labels ((trimChars domain.toList).map lower) := by
  rw [splitDomain, labels, split, mapChars, trimSpace, String.toList_ofList]
  simp only [String.ofList_eq_empty_iff, String.toList_ofList]

/-- The text that both prefixes of a star are taken from. -/
def lowered (lower : Char → Char) (pattern : String) : String :=
  Text.mapChars lower (Text.trimSpace pattern)

theorem toList_lowered (pattern : String) :
    (lowered lower pattern).toList = (trimChars pattern.toList).map lower := by
  rw [lowered, mapChars, trimSpace, String.toList_ofList, String.toList_ofList]

theorem normalizeDomain_eq (pattern : String) :
    normalizeDomain lower pattern = trimPrefix (trimPrefix (lowered lower pattern) "*.") "*" :=
  rfl

section

variable (lowers : LowersLetters lower) {pattern name : String} {rest : List Char}

include lowers

theorem head_map_ne_star {chars : List Char} (noStar : chars.head? ≠ some '*') :
    (chars.map lower).head? ≠ some '*' := by
  cases chars with
  | nil => exact noStar
  | cons =>
    intro isStar
    rw [map_cons, head?_cons, some.injEq, lowers.star] at isStar
    exact noStar (congrArg some isStar)

theorem pathOf_plain (plain : (trimChars pattern.toList).head? ≠ some '*') :
    pathOf lower pattern = trailOf lower pattern := by
  have noStar : (lowered lower pattern).toList.head? ≠ some '*' := by
    rw [toList_lowered]
    exact head_map_ne_star lowers plain
  rw [pathOf, trailOf, normalizeDomain_eq, trimPrefix_of_head (by rfl) noStar,
    trimPrefix_of_head (by rfl) noStar, lowered]

theorem pathOf_wild (isWild : pattern.toList = '*' :: '.' :: rest)
    (begins : ∀ char ∈ rest.head?, char ≠ '*' ∧ isSpace char = false) :
    pathOf lower pattern = labels (((rest.rdropWhile isSpace).map lower).map lower) := by
  have isLowered : (lowered lower pattern).toList =
      "*.".toList ++ (rest.rdropWhile isSpace).map lower := by
    have trimmed := trimChars_append_cons (by decide : isSpace '.' = false) ['*'] rest
    have kept : ['*'].dropWhile isSpace = ['*'] := by decide
    rw [kept, singleton_append, singleton_append] at trimmed
    rw [toList_lowered, isWild, trimmed, map_cons, map_cons, lowers.dot, (lowers.star '*').mpr rfl]
    rfl
  have tailBegins : ∀ char ∈ (rest.rdropWhile isSpace).head?,
      char ≠ '*' ∧ isSpace char = false := by
    intro char isHead
    obtain ⟨_, whole⟩ := rdropWhile_prefix isSpace rest
    apply begins char
    rw [← whole, head?_append, mem_def.mp isHead]
    rfl
  have tailTrimmed : trimChars (rest.rdropWhile isSpace) = rest.rdropWhile isSpace := by
    have nothing : (rest.rdropWhile isSpace).dropWhile isSpace = rest.rdropWhile isSpace := by
      cases isTail : rest.rdropWhile isSpace with
      | nil => rfl
      | cons first =>
        have notSpace := (tailBegins first (by rw [isTail]; rfl)).2
        rw [dropWhile_cons_of_neg (by simp [notSpace])]
    rw [trimChars, nothing, rdropWhile_idempotent]
  have noStar : (trimPrefix (lowered lower pattern) "*.").toList.head? ≠ some '*' := by
    rw [toList_trimPrefix isLowered]
    apply head_map_ne_star lowers
    intro isStar
    exact (tailBegins '*' isStar).1 rfl
  rw [pathOf, normalizeDomain_eq, trimPrefix_of_head (by rfl) noStar, splitDomain_eq,
    toList_trimPrefix isLowered, lowers.trimChars_map, tailTrimmed]

theorem pathOf_star (isStar : pattern.toList = ['*']) : pathOf lower pattern = [] := by
  have isLowered : (lowered lower pattern).toList = "*".toList ++ [] := by
    have kept : trimChars ['*'] = ['*'] := by decide
    rw [toList_lowered, isStar, kept, map_singleton, (lowers.star '*').mpr rfl]
    rfl
  have noDot : trimPrefix (lowered lower pattern) "*." = lowered lower pattern := by
    refine if_neg ?_
    rw [hasPrefix, isLowered]
    decide
  rw [pathOf, normalizeDomain_eq, noDot, splitDomain_eq, toList_trimPrefix isLowered]
  rfl

theorem labels_prefix_trailOf {front : List Char} (isName : name.toList = front ++ '.' :: rest) :
    labels (((rest.rdropWhile isSpace).map lower).map lower) <+: trailOf lower name := by
  rw [trailOf, splitDomain_eq, mapChars, String.toList_ofList, lowers.trimChars_map,
    trimSpace, String.toList_ofList, trimChars_trimChars, isName,
    trimChars_append_cons (by decide : isSpace '.' = false), map_append,
    map_append, map_cons, map_cons, lowers.dot, lowers.dot, labels, labels,
    if_neg (append_ne_nil_of_right_ne_nil _ (cons_ne_nil _ _)), splitOn, splitOn,
    splitOnP_append_cons _ _ (by simp), map_append, reverse_append]
  split_ifs
  · exact nil_prefix
  · exact prefix_append _ _

end

end DomainIndex

/-- It does not begin with a star, or it is a star, alone or before a dot and labels. -/
def namesLabels (pattern : String) : Bool :=
  match pattern.toList with
  | ['*'] => true
  | '*' :: '.' :: rest => rest.head?.all fun char => char ≠ '*' && !Text.isSpace char
  | chars => (Text.trimChars chars).head? ≠ some '*'

/-- The pattern is the name, or a star before an end part of it. -/
def PatternMatches (pattern name : String) : Prop :=
  pattern = name ∨ ∃ ending, pattern = "*" ++ ending ∧ Text.hasSuffix name ending = true

theorem pathOf_prefix_trailOf {lower : Char → Char} (lowers : LowersLetters lower)
    {pattern name : String} (labelled : namesLabels pattern = true)
    (isMatch : PatternMatches pattern name) :
    DomainIndex.pathOf lower pattern <+: DomainIndex.trailOf lower name := by
  rw [namesLabels] at labelled
  split at labelled
  case h_1 isStar =>
    rw [DomainIndex.pathOf_star lowers isStar]
    exact nil_prefix
  case h_2 rest isWild =>
    have begins : ∀ char ∈ rest.head?, char ≠ '*' ∧ isSpace char = false := by
      intro _ isHead
      rw [mem_def.mp isHead] at labelled
      simpa using labelled
    rw [DomainIndex.pathOf_wild lowers isWild begins]
    -- a pattern that is the name itself also matches as a star and an end part
    obtain ⟨front, isName⟩ : ∃ front, name.toList = front ++ '.' :: rest := by
      rcases isMatch with rfl | ⟨ending, isPattern, ends⟩
      · exact ⟨['*'], isWild⟩
      · obtain ⟨front, whole⟩ := isSuffixOf_iff_suffix.mp ends
        refine ⟨front, ?_⟩
        rw [isPattern, String.toList_append] at isWild
        have isEnding : ending.toList = '.' :: rest := (cons.inj isWild).2
        rw [← whole, isEnding]
    exact DomainIndex.labels_prefix_trailOf lowers isName
  case h_3 =>
    have plain : (trimChars pattern.toList).head? ≠ some '*' := by
      simpa using labelled
    rw [DomainIndex.pathOf_plain lowers plain]
    rcases isMatch with rfl | ⟨ending, isPattern, -⟩
    · exact prefix_rfl
    · exfalso
      apply plain
      rw [isPattern, String.toList_append]
      exact congrArg head? (trimChars_append_cons (by decide : isSpace '*' = false)
        [] ending.toList)

variable {Details : RecordKind → Type}

namespace Host

/-- The host is open, serves the scheme, and its location and pattern fit the path and the
name. -/
def Fits (request : HostRequest) (host : Host Details) : Prop :=
  host.isClose = false ∧
    (normalizedHostScheme host.scheme = "all" ∨ normalizedHostScheme host.scheme = request.scheme) ∧
    Text.hasPrefix request.path host.routeLocation = true ∧
    PatternMatches host.host (getIpByAddr request.host)

variable {host : Host Details} {name : String}

theorem matchesName_iff : host.matchesName name = true ↔ PatternMatches host.host name := by
  rw [matchesName, PatternMatches, Bool.or_eq_true, decide_eq_true_iff, Bool.and_eq_true]
  refine or_congr Iff.rfl ?_
  constructor
  · rintro ⟨isWild, ends⟩
    refine ⟨trimPrefix host.host "*", ?_, ends⟩
    rw [← String.toList_inj, String.toList_append]
    exact eq_append_trimPrefix isWild
  · rintro ⟨ending, isPattern, ends⟩
    have whole : host.host.toList = "*".toList ++ ending.toList := by
      rw [isPattern, String.toList_append]
    have sameEnding : trimPrefix host.host "*" = ending := by
      rw [← String.toList_inj, toList_trimPrefix whole]
    refine ⟨?_, ?_⟩
    · rw [hasPrefix, isPrefixOf_iff_prefix, whole]
      exact prefix_append _ _
    · rw [sameEnding]
      exact ends

theorem domainLength_le (isMatch : PatternMatches host.host name) :
    host.domainLength ≤ byteLength name := by
  rw [domainLength]
  rcases isMatch with isName | ⟨ending, isPattern, ends⟩
  · rw [isName]
    refine byteCount_le_of_sublist ?_
    rw [trimPrefix]
    split_ifs
    · rw [String.toList_ofList]
      exact drop_sublist _ _
    · exact List.Sublist.refl _
  · have whole : host.host.toList = "*".toList ++ ending.toList := by
      rw [isPattern, String.toList_append]
    refine byteCount_le_of_sublist ?_
    rw [toList_trimPrefix whole]
    exact (isSuffixOf_iff_suffix.mp ends).sublist

theorem serves_iff_fits {request : HostRequest} :
    host.serves (getIpByAddr request.host) request.path request.scheme = true ↔
      host.Fits request := by
  rw [serves_iff, matchesName_iff, Fits]
  constructor
  · rintro ⟨isOpen, fits, -, isMatch, inside⟩
    exact ⟨isOpen, fits, inside, isMatch⟩
  · rintro ⟨isOpen, fits, inside, isMatch⟩
    exact ⟨isOpen, fits, domainLength_le isMatch, isMatch, inside⟩

end Host

namespace Store

def NamesLabels (_ : Store Details) : StoreEvent Details → Prop
  | .newHost host | .updateHost host => namesLabels host.host = true
  | _ => True

instance (store : Store Details) : (event : StoreEvent Details) →
    Decidable (store.NamesLabels event)
  | .newHost host | .updateHost host => inferInstanceAs (Decidable (namesLabels host.host = true))
  | .newUser _ | .updateUser _ | .delUser _ _ | .newClient _ _ | .updateClient _ | .delClient _
  | .newTask _ _ | .updateTask _ _ | .delTask _ | .bindRuntimeOwner _ _ _
  | .removeRuntimeOwner _ _ | .delHost _ => .isTrue trivial

structure HostsFound (lower : Char → Char) (store : Store Details) : Prop where
  indexed : store.HostsIndexed lower
  labelled : ∀ host ∈ store.hosts.records, namesLabels host.host = true

variable {env : StoreEnv Details} {store : Store Details}

theorem hostsFound_hostLocal :
    HostLocal env fun store : Store Details => store.HostsFound env.lower where
  rest := by
    intro _ _ sameHosts sameIndex found
    refine ⟨?_, ?_⟩
    · rw [HostsIndexed, sameHosts, sameIndex]
      exact found.indexed
    · rw [sameHosts]
      exact found.labelled
  drop := fun _ _ found => ⟨found.indexed.drop, Table.forall_mem_delete found.labelled⟩

theorem HostsFound.step {event : StoreEvent Details} {next : Store Details}
    (found : store.HostsFound env.lower) (labelled : store.NamesLabels event)
    (stepEq : store.step env event = some next) : next.HostsFound env.lower := by
  refine hostsFound_hostLocal.step (fun outcome performs onHosts => ?_) found stepEq
  cases performs with
  | rejected => exact found
  | newHost =>
    exact ⟨hostsIndexed_createHost found.indexed _ _,
      Table.forall_mem_store found.labelled labelled⟩
  | updateHost =>
    exact ⟨hostsIndexed_replaceHost found.indexed _ _ _,
      Table.forall_mem_store found.labelled labelled⟩
  | delHost => exact ⟨found.indexed.drop, Table.forall_mem_delete found.labelled⟩
  | _ => cases onHosts

theorem HostsFound.mem_candidates (found : store.HostsFound env.lower)
    (lowers : LowersLetters env.lower) {request : HostRequest} {ids : List Int}
    (sameIds : ids.Perm (store.hostIndex.lookup env.lower (getIpByAddr request.host)))
    {host : Host Details} :
    host ∈ (ids.filterMap store.hosts.get).filter
        (Host.serves (getIpByAddr request.host) request.path request.scheme) ↔
      host ∈ store.hosts.records ∧ host.Fits request := by
  rw [mem_filter, Host.serves_iff_fits]
  refine and_congr_left fun fits => ?_
  rw [mem_filterMap]
  constructor
  · rintro ⟨id, -, isHost⟩
    exact Table.mem_of_get isHost
  · intro isHost
    refine ⟨host.id, ?_, Table.get_key_of_mem isHost⟩
    rw [sameIds.mem_iff, DomainIndex.mem_lookup_iff]
    exact ⟨_, pathOf_prefix_trailOf lowers (found.labelled host isHost) fits.2.2.2,
      found.indexed host isHost⟩

/-- In every run that stores only patterns of whole labels, a request finds no host exactly if no
stored host fits it; otherwise, if the name does not begin with a star, one with the longest
location, then the longest pattern, then an exact one. -/
theorem getInfoByHost_complete (env : StoreEnv Details) (lowers : LowersLetters env.lower)
    (events : List (StoreEvent Details)) (store : Store Details)
    (reaches : Runs.execute (Store.step env) new events = some store)
    (labelled : Runs.Meets (Store.step env) NamesLabels new events) (request : HostRequest)
    (ids : List Int)
    (sameIds : ids.Perm (store.hostIndex.lookup env.lower (getIpByAddr request.host))) :
    (store.selectHost ids request = none ↔ ∀ host ∈ store.hosts.records, ¬ host.Fits request) ∧
    (Text.hasPrefix (getIpByAddr request.host) "*" = false →
      ∀ host, store.selectHost ids request = some host →
        host ∈ store.hosts.records ∧ host.Fits request ∧
        ∀ other ∈ store.hosts.records, other.Fits request →
          other.rank (getIpByAddr request.host) ≤ host.rank (getIpByAddr request.host)) := by
  have found : store.HostsFound env.lower :=
    Runs.invariant_of_meets (HostsFound env.lower) (fun _ _ _ found => found.step)
      ⟨fun _ isHost => absurd isHost Table.not_mem_empty,
        fun _ isHost => absurd isHost Table.not_mem_empty⟩ labelled reaches
  have isCandidate : ∀ host, host ∈ (ids.filterMap store.hosts.get).filter
        (Host.serves (getIpByAddr request.host) request.path request.scheme) ↔
      host ∈ store.hosts.records ∧ host.Fits request :=
    fun _ => found.mem_candidates lowers sameIds
  rw [selectHost_eq]
  constructor
  · rw [BestChoice.choose_eq_none_iff, eq_nil_iff_forall_not_mem]
    simp only [isCandidate, not_and]
  · intro plain host chosen
    have highest := (Host.ranked plain).le_of_choose (fun _ => of_mem_filter) chosen
    obtain ⟨isHost, fits⟩ := (isCandidate host).mp (BestChoice.mem_of_choose chosen)
    exact ⟨isHost, fits, fun other isOther otherFits =>
      highest other ((isCandidate other).mpr ⟨isOther, otherFits⟩)⟩

theorem toLower_cases (char : Char) :
    char.toLower = char ∨ ∃ code, code < 91 ∧ 65 ≤ code ∧ char = Char.ofNat code := by
  by_cases isUpper : 'A'.val ≤ char.val ∧ char.val ≤ 'Z'.val
  · exact .inr ⟨char.toNat, Nat.lt_succ_of_le isUpper.2, isUpper.1, (Char.ofNat_toNat char).symm⟩
  · exact .inl (dif_neg isUpper)

theorem upperCase_lowers : ∀ code < 91, 65 ≤ code →
    (Char.ofNat code).toLower ≠ '*' ∧ Char.ofNat code ≠ '*' ∧
      isSpace (Char.ofNat code).toLower = isSpace (Char.ofNat code) := by
  decide

theorem lowersLetters_bare : LowersLetters StoreEnv.bare.lower where
  dot := by decide
  star := by
    intro char
    change char.toLower = '*' ↔ char = '*'
    rcases toLower_cases char with same | ⟨code, below, above, rfl⟩
    · rw [same]
    · obtain ⟨notLower, notUpper, -⟩ := upperCase_lowers code below above
      exact iff_of_false notLower notUpper
  space := by
    intro char
    change isSpace char.toLower = isSpace char
    rcases toLower_cases char with same | ⟨code, below, above, rfl⟩
    · rw [same]
    · exact (upperCase_lowers code below above).2.2

def wildcards : List (StoreEvent Bare) :=
  [.newClient (Client.bare 0 "key" 0 []) [],
    .newHost (Host.bare 0 1 "*" "/" "all"),
    .newHost (Host.bare 0 1 "*.Example.com" "/" "all"),
    .newHost (Host.bare 0 1 "*.com" "/api" "http"),
    .newHost (Host.bare 0 1 "a.Example.com" "/" "https")]

/-- A request is served by the longest location, a request for another path by the
longest pattern of its scheme. -/
theorem getInfoByHost_wildcards :
    ∃ store, Runs.execute (Store.step StoreEnv.bare) new wildcards = some store ∧
      (∃ host, store.getInfoByHost StoreEnv.bare ⟨"a.Example.com:80", "/api/x", "http"⟩ =
          some host ∧ host.id = 3 ∧ ∀ other ∈ store.hosts.records,
          other.Fits ⟨"a.Example.com:80", "/api/x", "http"⟩ →
          other.rank "a.Example.com" ≤ host.rank "a.Example.com") := by
  obtain ⟨store, reaches, chosen⟩ :
      ∃ store, Runs.execute (Store.step StoreEnv.bare) new wildcards = some store ∧
        (store.getInfoByHost StoreEnv.bare ⟨"a.Example.com:80", "/api/x", "http"⟩).map Host.id =
          some 3 :=
    Runs.exists_of_any (by decide +kernel)
  obtain ⟨host, isHost, isThird⟩ := map_eq_some_iff.mp chosen
  have complete := getInfoByHost_complete StoreEnv.bare lowersLetters_bare wildcards store reaches
    (by decide +kernel) ⟨"a.Example.com:80", "/api/x", "http"⟩ _ (List.Perm.refl _)
  have isName : getIpByAddr "a.Example.com:80" = "a.Example.com" := by decide +kernel
  rw [isName] at complete
  exact ⟨store, reaches, host, isHost, isThird, (complete.2 (by decide +kernel) host isHost).2.2⟩

def partLabel : List (StoreEvent Bare) :=
  [.newClient (Client.bare 0 "key" 0 []) [], .newHost (Host.bare 0 1 "*ample.com" "/" "all")]

/-- The pattern fits the name and is not found. -/
theorem getInfoByHost_misses_part :
    ∃ store, Runs.execute (Store.step StoreEnv.bare) new partLabel = some store ∧
      store.getInfoByHost StoreEnv.bare ⟨"example.com", "/", "http"⟩ = none ∧
      ∃ host ∈ store.hosts.records, host.Fits ⟨"example.com", "/", "http"⟩ := by
  obtain ⟨store, reaches, isNone, serves⟩ :
      ∃ store, Runs.execute (Store.step StoreEnv.bare) new partLabel = some store ∧
        (store.getInfoByHost StoreEnv.bare ⟨"example.com", "/", "http"⟩).isNone = true ∧
        store.hosts.records.any (Host.serves (getIpByAddr "example.com") "/" "http") = true :=
    Runs.exists_of_any (by decide +kernel)
  obtain ⟨host, isHost, serves⟩ := any_eq_true.mp serves
  exact ⟨store, reaches, isNone_iff_eq_none.mp isNone, host, isHost,
    Host.serves_iff_fits.mp serves⟩

end Store

end File

end DeepNps
