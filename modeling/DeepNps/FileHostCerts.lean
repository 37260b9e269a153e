import DeepNps.FileHostChoice
import Mathlib.Data.Set.Finite.Lemmas

/-!
# Certificates of hosts

`SelectReusableCertHost` looks for a host whose certificate another host can use, and
`FindCertByHost` for the host of a TLS server name.
-/

namespace DeepNps.File

open Text BestChoice

variable {Details : RecordKind → Type}

/-! ## A certificate that can be reused -/

structure HostCert where
  httpsJustProxy : Bool
  certFile : String
  keyFile : String

def hostMatchesPattern (pattern host : String) : Bool :=
  let pattern := getIpByAddr pattern
  let host := getIpByAddr host
  pattern ≠ "" && host ≠ "" &&
    (pattern = host || (hasPrefix pattern "*" && hasSuffix host (trimPrefix pattern "*")))

def hostHasReusableManualCert (cert : Details .host → HostCert) (host : Host Details) : Bool :=
  ¬ (normalizedHostScheme host.scheme = "http" ∨ (cert host.details).httpsJustProxy) &&
    trimSpace (cert host.details).certFile ≠ "" && trimSpace (cert host.details).keyFile ≠ ""

namespace Host

def locationLength (host : Host Details) : Nat := byteLength (normalizedHostLocation host.location)

/-- Whether the loop of `SelectReusableCertHost` replaces the host that it keeps. -/
def replaces (host kept : Host Details) : Bool :=
  if kept.domainLength < host.domainLength then true
  else if host.domainLength = kept.domainLength then
    if host.locationLength < kept.locationLength then true
    else if host.locationLength = kept.locationLength then
      (kept.isClose && ¬ host.isClose) || host.id < kept.id
    else false
  else false

/-- Longest domain, then shortest location, then open before closed, then smallest id. -/
def certRank (host : Host Details) : Nat ×ₗ Natᵒᵈ ×ₗ Bool ×ₗ Intᵒᵈ :=
  toLex (host.domainLength, toLex (OrderDual.toDual host.locationLength,
    toLex (!host.isClose, OrderDual.toDual host.id)))

end Host

/-- The candidates that the loop does not skip. -/
def reusableCertHosts (cert : Details .host → HostCert) (host : String)
    (candidates : List (Host Details)) (excludeID : Int) : List (Host Details) :=
  candidates.filter fun candidate =>
    candidate.id ≠ excludeID && hostHasReusableManualCert cert candidate &&
      hostMatchesPattern candidate.host (getIpByAddr host)

def selectReusableCertHost (cert : Details .host → HostCert) (host : String)
    (candidates : List (Host Details)) (excludeID : Int) : Option (Host Details) :=
  if getIpByAddr host = "" then none
  else choose Host.replaces (reusableCertHosts cert host candidates excludeID)

/-- A host with the longest domain and, of those, the shortest location. -/
def Leads (hosts : List (Host Details)) (host : Host Details) : Prop :=
  host ∈ hosts ∧ ∀ other ∈ hosts, other.domainLength < host.domainLength ∨
    other.domainLength = host.domainLength ∧ host.locationLength ≤ other.locationLength

/-- If the leading host with the smallest id is closed, so are all leading ones. -/
def OpenFirst (hosts : List (Host Details)) : Prop :=
  ∀ host, Leads hosts host → (∀ other, Leads hosts other → host.id ≤ other.id) →
    host.isClose = true → ∀ other, Leads hosts other → other.isClose = true

theorem selectReusableCertHost_eq (cert : Details .host → HostCert) (name : String)
    (candidates : List (Host Details)) (excludeID : Int) :
    selectReusableCertHost cert name candidates excludeID =
      choose Host.replaces (reusableCertHosts cert name candidates excludeID) := by
  rw [selectReusableCertHost]
  split_ifs with isEmpty
  · have noName : getIpByAddr "" = "" := by decide +kernel
    simp [reusableCertHosts, isEmpty, hostMatchesPattern, noName, choose]
  · rfl

section

variable {hosts : List (Host Details)}
  (distinct : ∀ host ∈ hosts, ∀ other ∈ hosts, host.id = other.id → host = other)

include distinct

/-- The best host beats all others, and none of them beats it. -/
theorem OpenFirst.exists_best (openFirst : OpenFirst hosts) (nonempty : hosts ≠ []) :
    ∃ best ∈ hosts, (∀ host ∈ hosts, host.certRank ≤ best.certRank) ∧
      ∀ host ∈ hosts, host = best ∨ best.replaces host = true ∧ host.replaces best = false := by
  obtain ⟨best, isBest, highest⟩ :=
    Set.exists_max_image _ Host.certRank hosts.finite_toSet (List.exists_mem_of_ne_nil _ nonempty)
  refine ⟨best, isBest, highest, fun host isHost => ?_⟩
  simp only [Set.mem_ofPred_eq, Host.certRank, Prod.Lex.toLex_le_toLex, OrderDual.toDual_le_toDual,
    OrderDual.toDual_lt_toDual, OrderDual.toDual_inj, Bool.lt_iff] at highest
  have leads : Leads hosts best := ⟨isBest, by grind⟩
  obtain ⟨first, firstLeads, smallest⟩ := Set.exists_min_image {host | Leads hosts host} Host.id
    (hosts.finite_toSet.subset fun _ leading => leading.1) ⟨best, leads⟩
  have sameLengths := firstLeads.2 best isBest
  have firstRank := highest first firstLeads.1
  have hostRank := highest host isHost
  have same := distinct host isHost best isBest
  have isSmallest (isOpen : best.isClose = false) : best.id ≤ first.id := by
    cases isClosed : first.isClose with
    | true => simp [openFirst first firstLeads smallest isClosed best leads] at isOpen
    | false => grind
  simp only [Host.replaces]
  by_cases hostLengths : host.domainLength = best.domainLength ∧
      host.locationLength = best.locationLength
  · have hostSmallest : first.id ≤ host.id := by
      apply smallest host ⟨isHost, ?_⟩
      rw [hostLengths.1, hostLengths.2]
      exact leads.2
    grind
  · grind

/-- A leading host of the smallest id takes the place of all before it. -/
theorem Leads.replaces {host other : Host Details} (leads : Leads hosts host)
    (smallest : ∀ other, Leads hosts other → host.id ≤ other.id) (isOther : other ∈ hosts) :
    other = host ∨ host.replaces other = true := by
  have same := distinct other isOther host leads.1
  have longest := leads.2 other isOther
  have otherSmallest (sameLengths : other.domainLength = host.domainLength ∧
      other.locationLength = host.locationLength) : host.id ≤ other.id := by
    apply smallest other ⟨isOther, ?_⟩
    rw [sameLengths.1, sameLengths.2]
    exact leads.2
  simp only [Host.replaces]
  grind

end

section

variable {cert : Details .host → HostCert} {name : String} {excludeID : Int}
  {candidates : List (Host Details)}

theorem eq_of_reusable (distinct : (candidates.map Host.id).Nodup) :
    ∀ host ∈ reusableCertHosts cert name candidates excludeID,
      ∀ other ∈ reusableCertHosts cert name candidates excludeID,
        host.id = other.id → host = other := by
  intro host isHost other isOther
  exact List.inj_on_of_nodup_map distinct (List.mem_filter.mp isHost).1
    (List.mem_filter.mp isOther).1

/-- In some order such a host comes last, and is chosen. -/
theorem Leads.exists_perm (distinct : (candidates.map Host.id).Nodup) {host : Host Details}
    (leads : Leads (reusableCertHosts cert name candidates excludeID) host)
    (smallest : ∀ other, Leads (reusableCertHosts cert name candidates excludeID) other →
      host.id ≤ other.id) :
    ∃ others : List (Host Details), others.Perm candidates ∧
      choose Host.replaces (reusableCertHosts cert name others excludeID) = some host := by
  obtain ⟨isCandidate, isUsable⟩ := List.mem_filter.mp leads.1
  obtain ⟨front, back, rfl⟩ := List.append_of_mem isCandidate
  refine ⟨front ++ back ++ [host],
    (List.perm_append_singleton host (front ++ back)).trans List.perm_middle.symm, ?_⟩
  have isLast : reusableCertHosts cert name (front ++ back ++ [host]) excludeID =
      reusableCertHosts cert name (front ++ back) excludeID ++ [host] := by
    rw [reusableCertHosts, List.filter_append, List.filter_cons_of_pos]
    · rfl
    · exact isUsable
  rw [isLast]
  refine choose_append_cons (fun other isOther => ?_) (by simp)
  apply leads.replaces (eq_of_reusable distinct) smallest
  obtain ⟨isListed, isUsable⟩ := List.mem_filter.mp isOther
  exact List.mem_filter.mpr ⟨by grind, isUsable⟩

end

/-- In every order of the candidates the best one is chosen, exactly if the leading ones are not
closed by the one with the smallest id. -/
theorem selectReusableCertHost_best (cert : Details .host → HostCert) (name : String)
    (excludeID : Int) (candidates : List (Host Details))
    (distinct : (candidates.map Host.id).Nodup) :
    ((∀ others, others.Perm candidates →
      selectReusableCertHost cert name others excludeID =
        selectReusableCertHost cert name candidates excludeID) ∧
    (selectReusableCertHost cert name candidates excludeID = none ↔
      reusableCertHosts cert name candidates excludeID = []) ∧
    ∀ best, selectReusableCertHost cert name candidates excludeID = some best →
      best ∈ reusableCertHosts cert name candidates excludeID ∧
      ∀ host ∈ reusableCertHosts cert name candidates excludeID,
        host.certRank ≤ best.certRank) ↔
      OpenFirst (reusableCertHosts cert name candidates excludeID) := by
  simp only [selectReusableCertHost_eq]
  constructor
  · rintro ⟨sameChoice, -, isBest⟩ host leads smallest isClosed other otherLeads
    obtain ⟨others, perm, chosen⟩ := leads.exists_perm distinct smallest
    have lengths := leads.2 other otherLeads.1
    have otherLengths := otherLeads.2 host leads.1
    have rank := (isBest host ((sameChoice others perm).symm.trans chosen)).2 other otherLeads.1
    simp only [Host.certRank, Prod.Lex.toLex_le_toLex, OrderDual.toDual_le_toDual,
      OrderDual.toDual_lt_toDual, OrderDual.toDual_inj, Bool.lt_iff] at rank
    grind
  · intro openFirst
    have usable {others : List (Host Details)} (perm : others.Perm candidates) :
        (reusableCertHosts cert name others excludeID).Perm
          (reusableCertHosts cert name candidates excludeID) := perm.filter _
    by_cases isEmpty : reusableCertHosts cert name candidates excludeID = []
    · refine ⟨fun others perm => ?_, choose_eq_none_iff _, by simp [isEmpty, choose]⟩
      have stillEmpty := usable perm
      rw [isEmpty] at stillEmpty ⊢
      rw [stillEmpty.eq_nil]
    obtain ⟨best, isBest, highest, unbeaten⟩ :=
      openFirst.exists_best (eq_of_reusable distinct) isEmpty
    have chosen (others : List (Host Details)) (perm : others.Perm candidates) :
        choose Host.replaces (reusableCertHosts cert name others excludeID) = some best :=
      choose_of_unbeaten ((usable perm).mem_iff.mpr isBest) fun host isHost =>
        unbeaten host ((usable perm).mem_iff.mp isHost)
    have isChosen := chosen candidates (.refl _)
    refine ⟨fun others perm => (chosen others perm).trans isChosen.symm, choose_eq_none_iff _, ?_⟩
    intro other isOther
    cases isChosen.symm.trans isOther
    exact ⟨isBest, highest⟩

def withCert (_ : Bare .host) : HostCert := ⟨false, "cert", "key"⟩

def certHosts (isClose : Bool) : List (Host Bare) :=
  [Host.bare 2 1 "*.b" "/" "all", { Host.bare 1 1 "*.b" "/" "all" with isClose }]

/-- A host with a longer domain is chosen in every order of the candidates. -/
theorem selectReusableCertHost_best_three :
    let hosts := Host.bare 3 1 "a.b" "/" "all" :: certHosts true
    (selectReusableCertHost withCert "a.b" hosts 0).map Host.id = some 3 ∧
      ∀ others, others.Perm hosts → selectReusableCertHost withCert "a.b" others 0 =
        selectReusableCertHost withCert "a.b" hosts 0 := by
  intro hosts
  have openFirst : OpenFirst (reusableCertHosts withCert "a.b" hosts 0) := by
    rintro host ⟨isUsable, longest⟩ _ isClosed
    have isLonger := longest _ (List.mem_filter.mpr ⟨List.mem_cons_self, by decide +kernel⟩)
    have isHost := (List.mem_filter.mp isUsable).1
    simp only [hosts, certHosts, List.mem_cons, List.not_mem_nil, or_false] at isHost
    rcases isHost with rfl | rfl | rfl
    · cases isClosed
    · exact absurd isLonger (by decide +kernel)
    · exact absurd isLonger (by decide +kernel)
  exact ⟨by decide +kernel,
    ((selectReusableCertHost_best withCert "a.b" 0 hosts (by decide)).mpr openFirst).1⟩

/-- A closed host with a smaller id takes the place of an open one that comes before it. -/
theorem selectReusableCertHost_depends_on_order :
    (selectReusableCertHost withCert "a.b" (certHosts true) 0).map Host.id = some 1 ∧
    (selectReusableCertHost withCert "a.b" (certHosts true).reverse 0).map Host.id = some 2 := by
  decide +kernel

/-! ## The host of a TLS server name -/

namespace Host

/-- The checks of `FindCertByHost` before it compares two hosts. -/
def secures (name : String) (host : Host Details) : Bool :=
  ¬ (host.isClose ∨ normalizedHostScheme host.scheme = "http") &&
    ¬ (byteLength name < host.domainLength) && host.matchesName name

def exactAtRoot (name : String) (host : Host Details) : Bool :=
  host.host = name && (host.location = "/" || host.location = "")

/-- Whether the loop of `FindCertByHost` replaces the host that it keeps.  It is left at an exact
pattern at the root, so nothing takes the place of one. -/
def securesBetter (name : String) (host kept : Host Details) : Bool :=
  if kept.exactAtRoot name then false
  else if host.exactAtRoot name then true
  else if kept.domainLength < host.domainLength then true
  else if host.domainLength = kept.domainLength then
    (host.host = name &&
        (byteLength host.location ≤ byteLength kept.location || hasPrefix kept.host "*")) ||
      (byteLength host.location ≤ byteLength kept.location && hasPrefix kept.host "*")
  else false

/-- The length of the location where it counts: not at the root of an exact pattern, and not
between exact patterns of a name that begins with a star. -/
def locationSize (name : String) (host : Host Details) : Nat :=
  if host.exactAtRoot name || host.host = name && hasPrefix name "*" then 0
  else byteLength host.location

/-- An exact pattern at the root, then the longest domain, then an exact one, then the shortest
location. -/
def serverRank (name : String) (host : Host Details) : Bool ×ₗ Nat ×ₗ Bool ×ₗ Natᵒᵈ :=
  toLex (host.exactAtRoot name, toLex (host.domainLength, toLex (decide (host.host = name),
    OrderDual.toDual (host.locationSize name))))

end Host

namespace Store

def secured (store : Store Details) (ids : List Int) (host : String) : List (Host Details) :=
  (ids.filterMap store.hosts.get).filter (Host.secures (getIpByAddr host))

/-- The loop of `FindCertByHost` over candidate ids in some order. -/
def selectCertHost (store : Store Details) (ids : List Int) (host : String) :
    Option (Host Details) :=
  if host = "" then none
  else choose (Host.securesBetter (getIpByAddr host)) (store.secured ids host)

def findCertByHost (env : StoreEnv Details) (store : Store Details) (host : String) :
    Option (Host Details) :=
  store.selectCertHost (store.hostIndex.lookup env.lower (getIpByAddr host)) host

/-- A candidate of the highest rank. -/
def SecuresBest (env : StoreEnv Details) (store : Store Details) (name : String)
    (host : Host Details) : Prop :=
  let hosts := store.secured (store.hostIndex.lookup env.lower (getIpByAddr name)) name
  name ≠ "" ∧ host ∈ hosts ∧
    ∀ other ∈ hosts, other.serverRank (getIpByAddr name) ≤ host.serverRank (getIpByAddr name)

end Store

namespace Host

variable {name : String} {host kept : Host Details}

/-- A pattern that matches the name begins with a star unless it is the name. -/
theorem hasPrefix_star (isMatch : host.matchesName name = true) :
    hasPrefix host.host "*" = (decide (host.host ≠ name) || hasPrefix name "*") := by
  by_cases exact : host.host = name
  · simp [exact]
  · simp only [matchesName, exact, decide_false, Bool.false_or, Bool.and_eq_true] at isMatch
    simp [exact, isMatch.1]

/-- If the name begins with a star, the pattern that is the name is a pattern of it. -/
theorem exact_iff_of_star (star : hasPrefix name "*" = true)
    (hostMatch : host.matchesName name = true) (keptMatch : kept.matchesName name = true)
    (sameDomain : host.domainLength = kept.domainLength) :
    host.host = name ↔ kept.host = name := by
  have ends {host : Host Details} (isMatch : host.matchesName name = true) :
      hasPrefix host.host "*" = true ∧ hasSuffix name (trimPrefix host.host "*") = true := by
    refine ⟨by simp [hasPrefix_star isMatch, star], ?_⟩
    simp only [matchesName, Bool.or_eq_true, decide_eq_true_eq, Bool.and_eq_true] at isMatch
    rcases isMatch with exact | isMatch
    · rw [exact, hasSuffix, List.isSuffixOf_iff_suffix, eq_append_trimPrefix star]
      exact List.suffix_append ..
    · exact isMatch.2
  rw [same_pattern_of_star (ends hostMatch) (ends keptMatch) sameDomain]

section

variable (hostMatch : host.matchesName name = true) (keptMatch : kept.matchesName name = true)

include hostMatch keptMatch

/-- Unless it is an exact one at the root, a host is replaced by those of no lower rank. -/
theorem securesBetter_iff : host.securesBetter name kept = true ↔
    kept.exactAtRoot name = false ∧ kept.serverRank name ≤ host.serverRank name := by
  have star := hasPrefix_star keptMatch
  have sameExact (star : hasPrefix name "*" = true) := exact_iff_of_star star hostMatch keptMatch
  simp only [securesBetter, serverRank, locationSize, exactAtRoot, star, Prod.Lex.toLex_le_toLex,
    OrderDual.toDual_le_toDual, Bool.lt_iff]
  grind

end

theorem exactAtRoot_of_le (higher : kept.serverRank name ≤ host.serverRank name)
    (isRoot : kept.exactAtRoot name = true) : host.exactAtRoot name = true := by
  simp only [serverRank, Prod.Lex.toLex_le_toLex, isRoot, Bool.lt_iff] at higher
  grind

theorem serverRanked : Ranked (securesBetter name) (serverRank name)
    (fun host : Host Details => host.matchesName name = true) where
  beaten := fun _ _ hostMatch keptMatch isBeaten =>
    ((securesBetter_iff hostMatch keptMatch).mp isBeaten).2
  unbeaten := by
    intro host kept hostMatch keptMatch notBeaten
    rw [Bool.eq_false_iff, ne_eq, securesBetter_iff hostMatch keptMatch] at notBeaten
    cases isRoot : kept.exactAtRoot name with
    | false => exact (not_le.mp fun higher => notBeaten ⟨isRoot, higher⟩).le
    | true =>
      -- an exact pattern at the root has the rank of any other one
      simp only [serverRank, locationSize, exactAtRoot, domainLength, Prod.Lex.toLex_le_toLex,
        OrderDual.toDual_le_toDual, Bool.lt_iff] at isRoot ⊢
      grind

end Host

section

variable {env : StoreEnv Details} {store : Store Details} {name : String}

theorem Store.mem_secured {ids : List Int} {host : Host Details} :
    host ∈ store.secured ids name ↔ (∃ id ∈ ids, store.hosts.get id = some host) ∧
      host.secures (getIpByAddr name) = true := by
  rw [secured, List.mem_filter, List.mem_filterMap]

theorem Host.matchesName_of_secures {host : Host Details} (isSecure : host.secures name = true) :
    host.matchesName name = true := by
  simp only [secures, Bool.and_eq_true] at isSecure
  exact isSecure.2

/-- A candidate of the highest rank is found in some order: the first one if it is an exact one at
the root, and else the last one. -/
theorem Store.SecuresBest.exists_perm {host : Host Details}
    (best : store.SecuresBest env name host) :
    ∃ ids : List Int, ids.Perm (store.hostIndex.lookup env.lower (getIpByAddr name)) ∧
      store.selectCertHost ids name = some host := by
  obtain ⟨named, isSecured, highest⟩ := best
  obtain ⟨⟨id, isId, found⟩, isSecure⟩ := mem_secured.mp isSecured
  obtain ⟨front, back, isSplit⟩ := List.append_of_mem isId
  have isMatch := Host.matchesName_of_secures isSecure
  have others : ∀ other ∈ store.secured (front ++ back) name,
      other.serverRank (getIpByAddr name) ≤ host.serverRank (getIpByAddr name) ∧
        other.matchesName (getIpByAddr name) = true := by
    intro other isOther
    obtain ⟨⟨otherId, isOtherId, otherFound⟩, otherSecure⟩ := mem_secured.mp isOther
    refine ⟨highest other (mem_secured.mpr ⟨⟨otherId, ?_, otherFound⟩, otherSecure⟩),
      Host.matchesName_of_secures otherSecure⟩
    rw [isSplit]
    grind
  rw [isSplit]
  cases isRoot : host.exactAtRoot (getIpByAddr name) with
  | true =>
    refine ⟨id :: (front ++ back), List.perm_middle.symm, ?_⟩
    have isFirst : store.secured (id :: (front ++ back)) name =
        [] ++ host :: store.secured (front ++ back) name := by
      simp [secured, found, isSecure]
    rw [selectCertHost, if_neg named, isFirst]
    apply choose_append_cons
    · simp
    · intro other _
      right
      rw [Host.securesBetter, if_pos isRoot]
  | false =>
    refine ⟨front ++ back ++ [id],
      (List.perm_append_singleton id (front ++ back)).trans List.perm_middle.symm, ?_⟩
    have isLast : store.secured (front ++ back ++ [id]) name =
        store.secured (front ++ back) name ++ [host] := by
      simp [secured, found, isSecure]
    rw [selectCertHost, if_neg named, isLast]
    apply choose_append_cons
    · intro other isOther
      obtain ⟨lower, otherMatch⟩ := others other isOther
      right
      rw [Host.securesBetter_iff isMatch otherMatch, Bool.eq_false_iff]
      refine ⟨fun otherRoot => ?_, lower⟩
      simp [Host.exactAtRoot_of_le lower otherRoot] at isRoot
    · simp

end

/-- The same host is found in every order of the candidates, exactly if they have no ties at the
highest rank; and an exact pattern at the root always comes first. -/
theorem findCertByHost_determined (env : StoreEnv Details) (store : Store Details)
    (name : String) :
    ((∀ ids, ids.Perm (store.hostIndex.lookup env.lower (getIpByAddr name)) →
      store.selectCertHost ids name = store.findCertByHost env name) ↔
      ∀ host other, store.SecuresBest env name host → store.SecuresBest env name other →
        host = other) ∧
    ∀ ids, ids.Perm (store.hostIndex.lookup env.lower (getIpByAddr name)) →
      ∀ host ∈ store.secured ids name, host.exactAtRoot (getIpByAddr name) = true → name ≠ "" →
        ∃ best, store.selectCertHost ids name = some best ∧
          best.exactAtRoot (getIpByAddr name) = true := by
  have within (ids : List Int) : ∀ host ∈ store.secured ids name,
      host.matchesName (getIpByAddr name) = true := fun host isHost =>
    Host.matchesName_of_secures (Store.mem_secured.mp isHost).2
  refine ⟨⟨fun determined host other best otherBest => ?_, fun untied ids perm => ?_⟩, ?_⟩
  · obtain ⟨ids, perm, isHost⟩ := best.exists_perm
    obtain ⟨otherIds, otherPerm, isOther⟩ := otherBest.exists_perm
    rw [determined ids perm] at isHost
    rw [determined otherIds otherPerm] at isOther
    exact Option.some.inj (isHost.symm.trans isOther)
  · rw [Store.findCertByHost, Store.selectCertHost, Store.selectCertHost]
    split_ifs with isEmpty
    · rfl
    symm
    apply Host.serverRanked.choose_eq (within _)
    · intro host isHost other isOther highest sameRank
      exact untied host other ⟨isEmpty, isHost, highest⟩ ⟨isEmpty, isOther, sameRank ▸ highest⟩
    · intro host
      rw [Store.mem_secured, Store.mem_secured]
      simp only [perm.mem_iff]
  · intro ids _ host isHost isRoot named
    obtain ⟨best, -, chosen, highest⟩ :=
      Host.serverRanked.choose_spec (within ids) (List.ne_nil_of_mem isHost)
    rw [Store.selectCertHost, if_neg named]
    exact ⟨best, chosen, Host.exactAtRoot_of_le (highest host isHost) isRoot⟩

def locations (locations : List String) : List (StoreEvent Bare) :=
  .newClient (Client.bare 0 "key" 0 []) [] ::
    locations.map fun location => .newHost (Host.bare 0 1 "a.b" location "https")

/-- Of two exact patterns with locations of one length the last candidate is found. -/
theorem findCertByHost_depends_on_order :
    ∃ store, Runs.execute (Store.step StoreEnv.bare) Store.new (locations ["/a", "/b"]) =
        some store ∧
      [1, 2].Perm (store.hostIndex.lookup StoreEnv.bare.lower (getIpByAddr "a.b")) ∧
      (store.selectCertHost [1, 2] "a.b").map Host.id = some 2 ∧
      (store.selectCertHost [2, 1] "a.b").map Host.id = some 1 := by
  exact Runs.exists_of_any (by decide +kernel)

end DeepNps.File
