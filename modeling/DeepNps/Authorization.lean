import DeepNps.Text
import Mathlib.Data.List.Nodup

/-!
# Normalised principals

The principal of a request is normalised before anything is decided.  A normalised one
carries the admin flag exactly if its permissions cover the management permission, and
normalising it again changes nothing.
-/

namespace DeepNps

/-! ## Lists without repeated entries -/

open List

namespace Unique

variable {Value : Type} [DecidableEq Value] {clean : Value → Option Value}
  {values listed : List Value} {value : Value}

def add (clean : Value → Option Value) (listed : List Value) (value : Value) : List Value :=
  match clean value with
  | none => listed
  | some value => if value ∈ listed then listed else listed ++ [value]

/-- The cleaned values behind those that are listed, each once. -/
def collect (clean : Value → Option Value) (listed values : List Value) : List Value :=
  values.foldl (add clean) listed

theorem mem_add {other : Value} :
    value ∈ add clean listed other ↔ value ∈ listed ∨ clean other = some value := by
  rw [add]
  cases clean other with
  | none => simp
  | some =>
    dsimp only
    split_ifs with isListed
    · simp only [Option.some.injEq]
      exact ⟨.inl, fun either => either.elim id fun same => same ▸ isListed⟩
    · simp [eq_comm]

theorem mem_collect :
    value ∈ collect clean listed values ↔
      value ∈ listed ∨ ∃ other ∈ values, clean other = some value := by
  induction values generalizing listed with
  | nil => simp [collect]
  | cons _ _ ih =>
    rw [collect, foldl_cons, ← collect, ih, mem_add]
    simp [or_assoc]

theorem nodup_collect (nodup : listed.Nodup) : (collect clean listed values).Nodup := by
  induction values generalizing listed with
  | nil => exact nodup
  | cons other _ ih =>
    refine ih ?_
    rw [add]
    cases clean other with
    | none => exact nodup
    | some =>
      dsimp only
      split_ifs with isListed
      · exact nodup
      · exact nodup_append.mpr ⟨nodup, nodup_singleton _, by
          rintro first isFirst _ isSecond rfl
          exact isListed (mem_singleton.mp isSecond ▸ isFirst)⟩

theorem collect_of_clean (isClean : ∀ value ∈ values, clean value = some value)
    (nodup : (listed ++ values).Nodup) : collect clean listed values = listed ++ values := by
  induction values generalizing listed with
  | nil => simp [collect]
  | cons other _ ih =>
    have notListed : other ∉ listed := fun isListed =>
      disjoint_of_nodup_append nodup isListed mem_cons_self
    rw [append_cons] at nodup ⊢
    rw [collect, foldl_cons, add, isClean other mem_cons_self]
    dsimp only
    rw [if_neg notListed]
    exact ih (fun value isValue => isClean value (mem_cons_of_mem _ isValue)) nodup

theorem collect_of_listed
    (isListed : ∀ other ∈ values, ∀ value, clean other = some value → value ∈ listed) :
    collect clean listed values = listed := by
  induction values with
  | nil => rfl
  | cons other _ ih =>
    have same : add clean listed other = listed := by
      rw [add]
      cases isValue : clean other with
      | none => rfl
      | some value => exact if_pos (isListed other mem_cons_self value isValue)
    rw [collect, foldl_cons, same]
    exact ih fun other isOther => isListed other (mem_cons_of_mem _ isOther)

end Unique

open DeepNps.Unique

namespace Web

/-- `Principal`: the map `Attributes` is given by its lookups. -/
structure Principal where
  authenticated : Bool
  kind : String
  subjectID : String
  username : String
  isAdmin : Bool
  clientIDs : List Int
  roles : List String
  permissions : List String
  attributes : Option (String → Option String)

def permissionAll : String := "*"

def permissionManagementAdmin : String := "management:admin"

def matchPermission (granted required : String) : Bool :=
  let granted := Text.trimSpace granted
  if granted = "" then false
  else if granted = permissionAll ∨ granted = required then true
  else if Text.hasSuffix granted "*" then
    Text.hasPrefix required (String.ofList granted.toList.dropLast)
  else false

def permissionSetAllows (granted : List String) (required : String) : Bool :=
  let required := Text.trimSpace required
  required = "" || granted.any (matchPermission · required)

def clientPermissions : List String :=
  ["clients:read", "tunnels:create", "tunnels:read", "tunnels:update", "tunnels:delete",
    "tunnels:control", "hosts:create", "hosts:read", "hosts:update", "hosts:delete",
    "hosts:control"]

def userPermissions : List String :=
  ["clients:create", "clients:read", "clients:update", "clients:delete", "clients:status",
    "tunnels:create", "tunnels:read", "tunnels:update", "tunnels:delete", "tunnels:control",
    "hosts:create", "hosts:read", "hosts:update", "hosts:delete", "hosts:control"]

def defaultRolePermissions (role : String) : List String :=
  let role := Text.trimSpace role
  if role = "admin" then [permissionAll, permissionManagementAdmin, "global:manage"]
  else if role = "client" then clientPermissions
  else if role = "user" then userPermissions
  else []

def cleanText (value : String) : Option String :=
  let value := Text.trimSpace value
  if value = "" then none else some value

def normalizePrincipalStrings (values : List String) : List String :=
  Unique.collect cleanText [] values

def cleanClientID (clientID : Int) : Option Int := if clientID ≤ 0 then none else some clientID

def normalizePrincipalClientIDs (clientIDs : List Int) : List Int :=
  Unique.collect cleanClientID [] clientIDs

def normalizePermissionSet (isAdmin : Bool) (roles explicit : List String) : List String :=
  let permissions := Unique.collect cleanText (normalizePrincipalStrings explicit)
    (roles.flatMap defaultRolePermissions)
  if isAdmin && permissionAll ∉ permissions then permissions ++ [permissionAll] else permissions

def copyAttribute (attributes copied : String → Option String) (key : String) :
    String → Option String :=
  match attributes key with
  | none => copied
  | some value => Function.update copied (Text.trimSpace key) (some value)

/-- The copy of the attributes under trimmed keys: the last of keys that become the same wins. -/
def copyAttributes (visited : List String) (attributes : String → Option String) :
    String → Option String :=
  visited.foldl (copyAttribute attributes) fun _ => none

/-- `NormalizePrincipal` up to the test for full access. -/
def Principal.trimmed (visited : List String) (principal : Principal) : Principal :=
  { principal with
    kind := Text.trimSpace principal.kind
    subjectID := Text.trimSpace principal.subjectID
    username := Text.trimSpace principal.username
    clientIDs := normalizePrincipalClientIDs principal.clientIDs
    roles := normalizePrincipalStrings principal.roles
    permissions := normalizePrincipalStrings principal.permissions
    attributes := principal.attributes.map (copyAttributes visited) }

def Principal.fullAccess (principal : Principal) : Bool :=
  principal.isAdmin || "admin" ∈ principal.roles ||
    permissionSetAllows principal.permissions permissionManagementAdmin

def Principal.anonymous : Principal where
  authenticated := false
  kind := "anonymous"
  subjectID := ""
  username := ""
  isAdmin := false
  clientIDs := []
  roles := ["anonymous"]
  permissions := []
  attributes := none

def defaultRoles (isAdmin : Bool) (kind : String) (roles : List String) : List String :=
  if roles ≠ [] then roles
  else if isAdmin then ["admin"]
  else if kind = "client" then ["client"]
  else ["user"]

def defaultKind (isAdmin : Bool) (roles : List String) (kind : String) : String :=
  if kind ≠ "" then kind
  else if isAdmin then "admin"
  else if "client" ∈ roles then "client"
  else "user"

def Principal.settle (principal : Principal) : Principal :=
  if principal.authenticated || principal.isAdmin || principal.subjectID ≠ "" ||
      principal.username ≠ "" || principal.clientIDs ≠ [] then
    let roles := defaultRoles principal.isAdmin principal.kind principal.roles
    { principal with
      authenticated := true
      roles := roles
      kind := defaultKind principal.isAdmin roles principal.kind
      permissions := normalizePermissionSet principal.isAdmin roles principal.permissions }
  else anonymous

def normalizePrincipal (visited : List String) (principal : Principal) : Principal :=
  let normalized := principal.trimmed visited
  (if normalized.fullAccess then
    { normalized with
      authenticated := true
      isAdmin := true
      kind := if normalized.kind = "" then "admin" else normalized.kind }
  else normalized).settle

def allows (visited : List String) (principal : Principal) (permission : String) : Bool :=
  let normalized := normalizePrincipal visited principal
  normalized.authenticated && permissionSetAllows normalized.permissions permission

def Principal.Visits (principal : Principal) (visited : List String) : Prop :=
  ∀ attributes ∈ principal.attributes, ∀ key, key ∈ visited ↔ (attributes key).isSome

/-! ## Permissions -/

theorem cleanText_eq_some {value cleaned : String} (isClean : cleanText value = some cleaned) :
    cleaned = Text.trimSpace value ∧ cleaned ≠ "" ∧ cleanText cleaned = some cleaned := by
  rw [cleanText] at isClean
  split_ifs at isClean with isEmpty
  cases isClean
  refine ⟨rfl, isEmpty, ?_⟩
  rw [cleanText, Text.trimSpace_trimSpace]
  exact if_neg isEmpty

theorem cleanText_of_mem {value : String} {values : List String}
    (isValue : value ∈ normalizePrincipalStrings values) : cleanText value = some value := by
  obtain ⟨_, -, isClean⟩ := (mem_collect.mp isValue).resolve_left not_mem_nil
  exact (cleanText_eq_some isClean).2.2

theorem normalizePrincipalStrings_of_clean {values : List String}
    (isClean : ∀ value ∈ values, cleanText value = some value) (nodup : values.Nodup) :
    normalizePrincipalStrings values = values :=
  collect_of_clean isClean nodup

theorem permissionSetAllows_admin {granted : List String} :
    permissionSetAllows granted permissionManagementAdmin = true ↔
      ∃ permission ∈ granted, matchPermission permission permissionManagementAdmin = true := by
  rw [permissionSetAllows, show Text.trimSpace permissionManagementAdmin =
    permissionManagementAdmin by decide +kernel]
  simp [permissionManagementAdmin]

theorem matchPermission_trimSpace (granted required : String) :
    matchPermission (Text.trimSpace granted) required = matchPermission granted required := by
  rw [matchPermission, Text.trimSpace_trimSpace, matchPermission]

variable {permission : String} {explicit : List String}

theorem defaultRolePermissions_covers {role : String}
    (isGranted : permission ∈ defaultRolePermissions role)
    (covers : matchPermission permission permissionManagementAdmin = true) :
    Text.trimSpace role = "admin" := by
  have clients : ∀ permission ∈ clientPermissions,
      matchPermission permission permissionManagementAdmin = false := by decide +kernel
  have users : ∀ permission ∈ userPermissions,
      matchPermission permission permissionManagementAdmin = false := by decide +kernel
  rw [defaultRolePermissions] at isGranted
  split_ifs at isGranted with isAdmin isClient isUser
  · exact isAdmin
  · rw [clients permission isGranted] at covers
    cases covers
  · rw [users permission isGranted] at covers
    cases covers
  · cases isGranted

theorem cleanText_defaultRolePermissions {role : String}
    (isGranted : permission ∈ defaultRolePermissions role) :
    cleanText permission = some permission := by
  have every : ∀ permission ∈ [permissionAll, permissionManagementAdmin, "global:manage"] ++
      clientPermissions ++ userPermissions, cleanText permission = some permission := by
    decide +kernel
  refine every permission ?_
  rw [defaultRolePermissions] at isGranted
  split_ifs at isGranted
  · exact mem_append_left _ (mem_append_left _ isGranted)
  · exact mem_append_left _ (mem_append_right _ isGranted)
  · exact mem_append_right _ isGranted
  · cases isGranted

theorem mem_normalizePermissionSet {isAdmin : Bool} {roles : List String} :
    permission ∈ normalizePermissionSet isAdmin roles explicit ↔
      permission ∈ normalizePrincipalStrings explicit ∨
        (∃ role ∈ roles, permission ∈ defaultRolePermissions role) ∨
          isAdmin = true ∧ permission = permissionAll := by
  have granted : permission ∈ collect cleanText (normalizePrincipalStrings explicit)
      (roles.flatMap defaultRolePermissions) ↔
      permission ∈ normalizePrincipalStrings explicit ∨
        ∃ role ∈ roles, permission ∈ defaultRolePermissions role := by
    rw [mem_collect]
    refine or_congr_right ⟨?_, ?_⟩
    · rintro ⟨other, isOther, isClean⟩
      obtain ⟨role, isRole, isGranted⟩ := mem_flatMap.mp isOther
      cases (cleanText_defaultRolePermissions isGranted).symm.trans isClean
      exact ⟨role, isRole, isGranted⟩
    · rintro ⟨role, isRole, isGranted⟩
      exact ⟨permission, mem_flatMap.mpr ⟨role, isRole, isGranted⟩,
        cleanText_defaultRolePermissions isGranted⟩
  rw [normalizePermissionSet, ← or_assoc, ← granted]
  split_ifs with missing
  · rw [Bool.and_eq_true] at missing
    simp [missing.1]
  · refine ⟨.inl, fun either => either.elim id ?_⟩
    rintro ⟨rfl, rfl⟩
    simpa using missing

theorem cleanText_of_mem_permissionSet {isAdmin : Bool} {roles : List String}
    (isMember : permission ∈ normalizePermissionSet isAdmin roles explicit) :
    cleanText permission = some permission := by
  rcases mem_normalizePermissionSet.mp isMember with isExplicit | ⟨role, -, isGranted⟩ | ⟨-, rfl⟩
  · exact cleanText_of_mem isExplicit
  · exact cleanText_defaultRolePermissions isGranted
  · decide +kernel

theorem nodup_normalizePermissionSet (isAdmin : Bool) (roles explicit : List String) :
    (normalizePermissionSet isAdmin roles explicit).Nodup := by
  have nodup : (collect cleanText (normalizePrincipalStrings explicit)
      (roles.flatMap defaultRolePermissions)).Nodup :=
    nodup_collect (nodup_collect nodup_nil)
  rw [normalizePermissionSet]
  split_ifs with missing
  · rw [Bool.and_eq_true, decide_eq_true_iff] at missing
    exact nodup_append_comm.mp (nodup_cons.mpr ⟨missing.2, nodup⟩)
  · exact nodup

theorem normalizePermissionSet_twice (isAdmin : Bool) (roles explicit : List String) :
    normalizePermissionSet isAdmin roles (normalizePermissionSet isAdmin roles explicit) =
      normalizePermissionSet isAdmin roles explicit := by
  rw [normalizePermissionSet, normalizePrincipalStrings_of_clean
    (fun _ => cleanText_of_mem_permissionSet) (nodup_normalizePermissionSet ..),
    collect_of_listed]
  · refine if_neg ?_
    rw [Bool.and_eq_true, decide_eq_true_iff]
    exact fun missing => missing.2 (mem_normalizePermissionSet.mpr (.inr (.inr ⟨missing.1, rfl⟩)))
  · intro _ isMember _ isClean
    obtain ⟨role, isRole, isGranted⟩ := mem_flatMap.mp isMember
    cases (cleanText_defaultRolePermissions isGranted).symm.trans isClean
    exact mem_normalizePermissionSet.mpr (.inr (.inl ⟨role, isRole, isGranted⟩))

/-! ## Normalised principals -/

namespace Principal

/-- Trimmed texts, cleaned lists, and the admin flag if anything gives full access. -/
structure Clean (principal : Principal) : Prop where
  kind : Text.trimSpace principal.kind = principal.kind
  subjectID : Text.trimSpace principal.subjectID = principal.subjectID
  username : Text.trimSpace principal.username = principal.username
  clientIDs : normalizePrincipalClientIDs principal.clientIDs = principal.clientIDs
  roles : normalizePrincipalStrings principal.roles = principal.roles
  permissions : normalizePrincipalStrings principal.permissions = principal.permissions
  attributes : ∀ attributes ∈ principal.attributes, ∀ key value, attributes key = some value →
    Text.trimSpace key = key

/-- A principal that normalising leaves alone. -/
structure Settled (principal : Principal) : Prop extends principal.Clean where
  authenticated : principal.authenticated = true
  hasKind : principal.kind ≠ ""
  hasRoles : principal.roles ≠ []
  fullAccess : principal.fullAccess = principal.isAdmin
  granted : normalizePermissionSet principal.isAdmin principal.roles principal.permissions =
    principal.permissions

variable {principal : Principal} {visited : List String}

theorem copyAttributes_of_trimmed {attributes : String → Option String}
    (trimmed : ∀ key value, attributes key = some value → Text.trimSpace key = key)
    (visits : ∀ key, key ∈ visited ↔ (attributes key).isSome) :
    copyAttributes visited attributes = attributes := by
  have copies : ∀ (visited : List String) (copied : String → Option String) (key : String),
      visited.foldl (copyAttribute attributes) copied key =
        if key ∈ visited then (attributes key).or (copied key) else copied key := by
    intro visited
    induction visited with
    | nil => simp
    | cons first _ ih =>
      intro _ key
      rw [foldl_cons, ih, copyAttribute]
      cases isValue : attributes first with
      | none => by_cases isFirst : key = first <;> simp [isFirst, isValue]
      | some value =>
        rw [trimmed first value isValue]
        by_cases isFirst : key = first <;> simp [isFirst, isValue]
  funext key
  have isVisited := visits key
  rw [copyAttributes, copies]
  cases isValue : attributes key with
  | none => simp
  | some =>
    rw [isValue] at isVisited
    rw [if_pos (isVisited.mpr rfl)]
    rfl

theorem trimSpace_of_copyAttributes {attributes : String → Option String} :
    ∀ key value, copyAttributes visited attributes key = some value → Text.trimSpace key = key := by
  rw [copyAttributes]
  refine foldlRecOn (motive := fun copied : String → Option String =>
    ∀ key value, copied key = some value → Text.trimSpace key = key) visited _
    (fun _ _ isValue => absurd isValue nofun) ?_
  intro _ holds first _ key value isValue
  rw [copyAttribute] at isValue
  cases isFound : attributes first with
  | none =>
    rw [isFound] at isValue
    exact holds key value isValue
  | some =>
    rw [isFound] at isValue
    dsimp only at isValue
    rw [Function.update_apply] at isValue
    split_ifs at isValue with isKey
    · rw [isKey, Text.trimSpace_trimSpace]
    · exact holds key value isValue

theorem clean_trimmed (visited : List String) (principal : Principal) :
    (principal.trimmed visited).Clean where
  kind := Text.trimSpace_trimSpace _
  subjectID := Text.trimSpace_trimSpace _
  username := Text.trimSpace_trimSpace _
  clientIDs := by
    refine collect_of_clean ?_ (nodup_collect nodup_nil)
    intro _ isMember
    obtain ⟨_, -, isClean⟩ := (mem_collect.mp isMember).resolve_left not_mem_nil
    rw [cleanClientID] at isClean
    split_ifs at isClean with notPositive
    cases isClean
    exact if_neg notPositive
  roles := normalizePrincipalStrings_of_clean (fun _ => cleanText_of_mem) (nodup_collect nodup_nil)
  permissions := normalizePrincipalStrings_of_clean (fun _ => cleanText_of_mem)
    (nodup_collect nodup_nil)
  attributes := by
    intro _ isSome key value isValue
    obtain ⟨_, -, rfl⟩ := Option.map_eq_some_iff.mp isSome
    exact trimSpace_of_copyAttributes key value isValue

theorem Clean.trimmed_eq (clean : principal.Clean) (visits : principal.Visits visited) :
    principal.trimmed visited = principal := by
  have attributes : principal.attributes.map (copyAttributes visited) = principal.attributes := by
    cases isSome : principal.attributes with
    | none => rfl
    | some attributes =>
      exact congrArg some (copyAttributes_of_trimmed (clean.attributes _ isSome) (visits _ isSome))
  rw [trimmed, clean.kind, clean.subjectID, clean.username, clean.clientIDs, clean.roles,
    clean.permissions, attributes]

theorem Settled.normalizePrincipal_eq (settled : principal.Settled)
    (visits : principal.Visits visited) : normalizePrincipal visited principal = principal := by
  have settles : principal.settle = principal := by
    rw [settle, settled.authenticated]
    simp only [Bool.true_or, if_true, defaultRoles, if_pos settled.hasRoles, defaultKind,
      if_pos settled.hasKind, settled.granted]
    rw [← settled.authenticated]
  rw [normalizePrincipal, settled.trimmed_eq visits, settled.fullAccess, if_neg settled.hasKind]
  split_ifs with isAdmin
  · nth_rewrite 1 [← settled.authenticated]
    rw [← isAdmin]
    exact settles
  · exact settles

theorem Clean.defaultRoles (clean : principal.Clean)
    (fullAccess : principal.fullAccess = principal.isAdmin) {roles : List String}
    (areDefault : Web.defaultRoles principal.isAdmin principal.kind principal.roles = roles) :
    normalizePrincipalStrings roles = roles ∧ roles ≠ [] ∧
      ("admin" ∈ roles → principal.isAdmin = true) := by
  rw [Web.defaultRoles] at areDefault
  split_ifs at areDefault with hasRoles isAdmin isClient <;> subst areDefault
  · refine ⟨clean.roles, hasRoles, fun isRole => ?_⟩
    rw [← fullAccess, Principal.fullAccess]
    simp [isRole]
  · exact ⟨by decide +kernel, by simp, fun _ => isAdmin⟩
  · exact ⟨by decide +kernel, by simp, by simp⟩
  · exact ⟨by decide +kernel, by simp, by simp⟩

theorem defaultKind_spec {kind : String} (isTrimmed : Text.trimSpace kind = kind) (isAdmin : Bool)
    (roles : List String) : Text.trimSpace (defaultKind isAdmin roles kind) =
      defaultKind isAdmin roles kind ∧ defaultKind isAdmin roles kind ≠ "" := by
  rw [defaultKind]
  split_ifs with hasKind isAdmin isClient
  · exact ⟨isTrimmed, hasKind⟩
  all_goals decide +kernel

theorem settle_settled (clean : principal.Clean)
    (fullAccess : principal.fullAccess = principal.isAdmin) :
    principal.settle = .anonymous ∧ principal.isAdmin = false ∨
      principal.settle.Settled ∧ principal.settle.isAdmin = principal.isAdmin := by
  rw [settle]
  split_ifs with isKnown
  · refine .inr ⟨?_, rfl⟩
    generalize areDefault : defaultRoles principal.isAdmin principal.kind principal.roles = roles
    obtain ⟨areClean, hasRoles, isAdmin⟩ := clean.defaultRoles fullAccess areDefault
    have covered : permissionSetAllows (normalizePermissionSet principal.isAdmin roles
        principal.permissions) permissionManagementAdmin = true → principal.isAdmin = true := by
      rw [permissionSetAllows_admin]
      rintro ⟨permission, isMember, covers⟩
      rcases mem_normalizePermissionSet.mp isMember with isExplicit | ⟨role, isRole, isGranted⟩ |
        ⟨isAdmin, -⟩
      · rw [clean.permissions] at isExplicit
        rw [← fullAccess, Principal.fullAccess,
          permissionSetAllows_admin.mpr ⟨permission, isExplicit, covers⟩, Bool.or_true]
      · have trimmed := (cleanText_eq_some (cleanText_of_mem (areClean.symm ▸ isRole))).1
        rw [defaultRolePermissions_covers isGranted covers] at trimmed
        exact isAdmin (trimmed ▸ isRole)
      · exact isAdmin
    exact
      { kind := (defaultKind_spec clean.kind ..).1
        subjectID := clean.subjectID
        username := clean.username
        clientIDs := clean.clientIDs
        roles := areClean
        permissions := normalizePrincipalStrings_of_clean
          (fun _ => cleanText_of_mem_permissionSet) (nodup_normalizePermissionSet ..)
        attributes := clean.attributes
        authenticated := rfl
        hasKind := (defaultKind_spec clean.kind ..).2
        hasRoles := hasRoles
        fullAccess := by
          rw [Principal.fullAccess, Bool.or_assoc, Bool.or_eq_left_iff_imp]
          simpa using fun either => either.elim isAdmin covered
        granted := normalizePermissionSet_twice .. }
  · simp only [Bool.or_eq_true, not_or] at isKnown
    exact .inl ⟨rfl, by simpa using isKnown.1.1.1.2⟩

theorem normalizePrincipal_spec (visited : List String) (principal : Principal) :
    (normalizePrincipal visited principal = .anonymous ∨
      (normalizePrincipal visited principal).Settled) ∧
      (normalizePrincipal visited principal).isAdmin = (principal.trimmed visited).fullAccess := by
  have clean := clean_trimmed visited principal
  have settles : ∀ known : Principal, known.Clean → known.fullAccess = known.isAdmin →
      (known.settle = .anonymous ∨ known.settle.Settled) ∧
        known.settle.isAdmin = known.isAdmin := by
    intro _ clean fullAccess
    rcases settle_settled clean fullAccess with ⟨isAnonymous, notAdmin⟩ | ⟨settled, sameAdmin⟩
    · exact ⟨.inl isAnonymous, by rw [isAnonymous, notAdmin]; rfl⟩
    · exact ⟨.inr settled, sameAdmin⟩
  rw [normalizePrincipal]
  cases isFull : (principal.trimmed visited).fullAccess with
  | false =>
    have notAdmin : (principal.trimmed visited).isAdmin = false := by
      rw [fullAccess, Bool.or_eq_false_iff, Bool.or_eq_false_iff] at isFull
      exact isFull.1.1
    rw [if_neg Bool.false_ne_true, ← notAdmin]
    exact settles _ clean (isFull.trans notAdmin.symm)
  | true =>
    have kind : ∀ kind, Text.trimSpace kind = kind →
        Text.trimSpace (if kind = "" then "admin" else kind) =
          if kind = "" then "admin" else kind := by
      intro _ isTrimmed
      split_ifs
      · decide +kernel
      · exact isTrimmed
    rw [if_pos rfl]
    exact settles _ { clean with kind := kind _ clean.kind } (by simp [fullAccess])

theorem fullAccess_trimmed (visited : List String) (principal : Principal) :
    (principal.trimmed visited).fullAccess = true ↔
      principal.isAdmin = true ∨ (∃ role ∈ principal.roles, Text.trimSpace role = "admin") ∨
        ∃ permission ∈ principal.permissions,
          matchPermission permission permissionManagementAdmin = true := by
  rw [fullAccess, Bool.or_eq_true, Bool.or_eq_true, permissionSetAllows_admin, or_assoc]
  refine or_congr_right (or_congr ?_ ⟨?_, ?_⟩)
  · rw [decide_eq_true_iff]
    simp only [trimmed, normalizePrincipalStrings, mem_collect, not_mem_nil, false_or]
    refine exists_congr fun role => and_congr_right fun _ => ⟨fun isClean => ?_, fun isAdmin => ?_⟩
    · exact (cleanText_eq_some isClean).1.symm
    · rw [cleanText, isAdmin]
      rfl
  · rintro ⟨permission, isMember, covers⟩
    obtain ⟨given, isGiven, isClean⟩ := (mem_collect.mp isMember).resolve_left not_mem_nil
    rw [(cleanText_eq_some isClean).1, matchPermission_trimSpace] at covers
    exact ⟨given, isGiven, covers⟩
  · rintro ⟨given, isGiven, covers⟩
    have named : Text.trimSpace given ≠ "" := by
      intro isEmpty
      rw [matchPermission, if_pos isEmpty] at covers
      cases covers
    exact ⟨Text.trimSpace given,
      mem_collect.mpr (.inr ⟨given, isGiven, if_neg named⟩),
      (matchPermission_trimSpace given _).trans covers⟩

end Principal

open Principal in
/-- Normalising twice is normalising once, and the admin flag is then set exactly if the principal
came with the flag, the role of an admin or a permission that covers the management. -/
theorem normalizePrincipal_keeps_privilege (principal : Principal) (visited again : List String)
    (visits : (normalizePrincipal visited principal).Visits again) :
    normalizePrincipal again (normalizePrincipal visited principal) =
      normalizePrincipal visited principal ∧
    ((normalizePrincipal visited principal).isAdmin = true ↔
      allows again (normalizePrincipal visited principal) permissionManagementAdmin = true) ∧
    ((normalizePrincipal visited principal).isAdmin = true ↔
      principal.isAdmin = true ∨ (∃ role ∈ principal.roles, Text.trimSpace role = "admin") ∨
        ∃ permission ∈ principal.permissions,
          matchPermission permission permissionManagementAdmin = true) := by
  obtain ⟨isNormal, isAdmin⟩ := normalizePrincipal_spec visited principal
  rw [← fullAccess_trimmed visited, ← isAdmin]
  rcases isNormal with isAnonymous | settled
  · have same : normalizePrincipal again .anonymous = .anonymous := rfl
    rw [isAnonymous, allows, same]
    exact ⟨rfl, by decide, Iff.rfl⟩
  · have same := settled.normalizePrincipal_eq visits
    refine ⟨same, ?_, Iff.rfl⟩
    rw [allows, same, settled.authenticated, Bool.true_and]
    constructor
    · intro isAdmin
      refine permissionSetAllows_admin.mpr ⟨permissionAll, ?_, by decide +kernel⟩
      rw [← settled.granted]
      exact mem_normalizePermissionSet.mpr (.inr (.inr ⟨isAdmin, rfl⟩))
    · intro covers
      rw [← settled.fullAccess, Principal.fullAccess, covers, Bool.or_true]

def managingUser : Principal where
  authenticated := false
  kind := ""
  subjectID := " u1 "
  username := ""
  isAdmin := false
  clientIDs := [3, 3, 0]
  roles := ["user", " user"]
  permissions := [" management:* "]
  attributes := none

theorem normalizePrincipal_keeps_privilege_managingUser :
    normalizePrincipal [] (normalizePrincipal [] managingUser) =
        normalizePrincipal [] managingUser ∧
      allows [] (normalizePrincipal [] managingUser) permissionManagementAdmin = true := by
  have noAttributes : (normalizePrincipal [] managingUser).attributes.isNone = true := by
    decide +kernel
  have visits : (normalizePrincipal [] managingUser).Visits [] := by
    intro _ isSome
    rw [Option.isNone_iff_eq_none.mp noAttributes] at isSome
    cases isSome
  obtain ⟨twice, flag, full⟩ := normalizePrincipal_keeps_privilege managingUser [] [] visits
  exact ⟨twice, flag.mp (full.mpr (.inr (.inr ⟨_, mem_singleton_self _, by decide +kernel⟩)))⟩

end Web

end DeepNps
