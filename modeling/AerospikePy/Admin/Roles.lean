import AerospikePy.Python.Extract

/-!
# Roles and privileges

`admin_policy.rs`: what a role is shown as in Python, and what a list of privilege dicts is
read as. A code is an integer or a name; an integer is taken through `__index__`.
-/

namespace AerospikePy.Admin

open AerospikePy.Core
open AerospikePy.Lib.Fallible
open AerospikePy.Python

/-- `aerospike_core::PrivilegeCode`, with the variants that the source names. -/
inductive PrivilegeCode where
  | userAdmin | sysAdmin | dataAdmin | udfAdmin | sIndexAdmin
  | read | readWrite | readWriteUdf | write | truncate
  | other (id : Nat)
  deriving DecidableEq

structure Privilege where
  code : PrivilegeCode
  ns : Option String
  setName : Option String
  deriving DecidableEq

structure Role where
  name : String
  privileges : List Privilege
  allowlist : List String
  readQuota : UInt32
  writeQuota : UInt32
  deriving DecidableEq

/-- `aerospike_core::AdminPolicy`. -/
structure AdminPolicy where
  timeout : UInt32
  deriving DecidableEq

/-- What lies outside the source: the default policy, and the Debug text of a string. -/
structure AdminCrates where
  adminPolicy : AdminPolicy
  debug : String → String

variable (crates : AdminCrates)

def parseAdminPolicy (policy : Option Entries) : Except PyErr AdminPolicy :=
  match policy.bind (getStr · "timeout") with
  | some val => do
    let timeout ← extractU32 val
    return ⟨timeout⟩
  | none => .ok crates.adminPolicy

def codeToPrivilegeCode (code : UInt8) : Except PyErr PrivilegeCode :=
  match code.toNat with
  | 0 => .ok .userAdmin
  | 1 => .ok .sysAdmin
  | 2 => .ok .dataAdmin
  | 3 => .ok .udfAdmin
  | 4 => .ok .sIndexAdmin
  | 10 => .ok .read
  | 11 => .ok .readWrite
  | 12 => .ok .readWriteUdf
  | 13 => .ok .write
  | 14 => .ok .truncate
  | n => .error ⟨.invalidArgError, s!"Unknown privilege code: {n}"⟩

/-- `name.to_ascii_lowercase().replace('_', "-")`. -/
def canonicalSpelling (name : String) : String :=
  .ofList ((name.toList.map Char.toLower).map fun c => if c = '_' then '-' else c)

def nameToPrivilegeCode (name : String) : Except PyErr PrivilegeCode :=
  match canonicalSpelling name with
  | "user-admin" => .ok .userAdmin
  | "sys-admin" => .ok .sysAdmin
  | "data-admin" => .ok .dataAdmin
  | "udf-admin" => .ok .udfAdmin
  | "sindex-admin" => .ok .sIndexAdmin
  | "read" => .ok .read
  | "read-write" => .ok .readWrite
  | "read-write-udf" => .ok .readWriteUdf
  | "write" => .ok .write
  | "truncate" => .ok .truncate
  | _ => .error ⟨.invalidArgError, s!"Unknown privilege name: {crates.debug name}. Expected one of: "
      ++ "read, read-write, read-write-udf, write, truncate, user-admin, sys-admin, data-admin, "
      ++ "udf-admin, sindex-admin"⟩

def privilegeCodeToInt : PrivilegeCode → UInt8
  | .userAdmin => 0
  | .sysAdmin => 1
  | .dataAdmin => 2
  | .udfAdmin => 3
  | .sIndexAdmin => 4
  | .read => 10
  | .readWrite => 11
  | .readWriteUdf => 12
  | .write => 13
  | .truncate => 14
  | .other _ => 255

def extractOptionalString (dict : Entries) (fieldName : String) : Except PyErr (Option String) :=
  match getStr dict fieldName with
  | none | some .none => .ok none
  | some value => match extractString value with
    | .ok s => .ok (some s)
    | .error _ => .error ⟨.typeError,
        s!"privilege '{fieldName}' must be str or None, got {value.typeName}"⟩

def parseCode (codeObj : PyObj) : Except PyErr PrivilegeCode :=
  match extractU8 codeObj with
  | .ok codeInt => codeToPrivilegeCode codeInt
  | .error _ => match extractString codeObj with
    | .ok codeStr => nameToPrivilegeCode crates codeStr
    | .error _ => .error ⟨.typeError,
        s!"privilege 'code' must be int or str, got {codeObj.typeName}"⟩

def codeOf (dict : Entries) : Except PyErr PyObj :=
  match getStr dict "code" with
  | some codeObj => .ok codeObj
  | none => .error ⟨.invalidArgError, "Privilege dict must have 'code' key"⟩

def parsePrivilege (item : PyObj) : Except PyErr Privilege := do
  let dict ← castDict item
  let codeObj ← codeOf dict
  let code ← parseCode crates codeObj
  let ns ← extractOptionalString dict "ns"
  let setName ← extractOptionalString dict "set"
  return ⟨code, ns, setName⟩

def parsePrivileges (privileges : List PyObj) : Except PyErr (List Privilege) :=
  privileges.mapM (parsePrivilege crates)

def privilegeToPy (p : Privilege) : PyObj :=
  .dict ((.str "code", .int (privilegeCodeToInt p.code).toNat) ::
    ((p.ns.map fun ns => (PyObj.str "ns", PyObj.str (.utf8 ns))).toList ++
      (p.setName.map fun set => (PyObj.str "set", PyObj.str (.utf8 set))).toList))

def roleEntries (role : Role) : Entries :=
  [(.str "name", .str role.name), (.str "privileges", .list (role.privileges.map privilegeToPy)),
    (.str "allowlist", .list (role.allowlist.map fun s => .str (.utf8 s))),
    (.str "read_quota", .int role.readQuota.toNat),
    (.str "write_quota", .int role.writeQuota.toNat)]

def roleToPy (role : Role) : PyObj := .dict (roleEntries role)

structure CreateRoleArgs where
  adminPolicy : AdminPolicy
  role : String
  privileges : List Privilege
  whitelist : List String
  readQuota : UInt32
  writeQuota : UInt32
  deriving DecidableEq

def prepareCreateRoleArgs (role : String) (privileges : List PyObj) (policy : Option Entries)
    (whitelist : Option (List String)) (readQuota writeQuota : UInt32) :
    Except PyErr CreateRoleArgs := do
  let adminPolicy ← parseAdminPolicy crates policy
  let rustPrivileges ← parsePrivileges crates privileges
  return ⟨adminPolicy, role, rustPrivileges, whitelist.getD [], readQuota, writeQuota⟩

def extractWhitelist : PyObj → Except PyErr (Option (List String))
  | .none => .ok none
  | obj => do
    let whitelist ← extractStrings obj
    return some whitelist

/-- The arguments of `admin_create_role`, on a client that is connected. -/
def adminCreateRole (role privileges : PyObj) (policy : Option Entries)
    (whitelist readQuota writeQuota : PyObj) : Except PyErr CreateRoleArgs := do
  let role ← extractString role
  let privileges ← castList privileges
  let whitelist ← extractWhitelist whitelist
  let readQuota ← extractU32 readQuota
  let writeQuota ← extractU32 writeQuota
  prepareCreateRoleArgs crates role privileges policy whitelist readQuota writeQuota

namespace PrivilegeCode

/-- The integer and the name of a code. -/
def table : PrivilegeCode → Option (Nat × String)
  | userAdmin => some (0, "user-admin")
  | sysAdmin => some (1, "sys-admin")
  | dataAdmin => some (2, "data-admin")
  | udfAdmin => some (3, "udf-admin")
  | sIndexAdmin => some (4, "sindex-admin")
  | read => some (10, "read")
  | readWrite => some (11, "read-write")
  | readWriteUdf => some (12, "read-write-udf")
  | write => some (13, "write")
  | truncate => some (14, "truncate")
  | other _ => none

end PrivilegeCode

/-- The same name, in any case and with `_` for `-`. -/
def Spells (name canonical : String) : Prop :=
  List.Forall₂ (fun c d => c.toLower = d ∨ c = '_' ∧ d = '-') name.toList canonical.toList

inductive DenotesCode : PyObj → PrivilegeCode → Prop
  | integer {obj : PyObj} {code : PrivilegeCode} {n : Nat} {canonical : String}
    (hindex : indexOf obj = .ok n) (hcode : code.table = some (n, canonical)) : DenotesCode obj code
  | name {name : String} {code : PrivilegeCode} {n : Nat} {canonical : String}
    (hname : Spells name canonical) (hcode : code.table = some (n, canonical)) :
    DenotesCode (.str name) code

def DenotesText (dict : Entries) (fieldName : String) : Option String → Prop
  | none => getStr dict fieldName = none ∨ getStr dict fieldName = some .none
  | some s => getStr dict fieldName = some (.str s)

/-- The entries of a dict that stands for a privilege. -/
structure DenotesEntries (es : Entries) (p : Privilege) : Prop where
  code : ∃ obj, getStr es "code" = some obj ∧ DenotesCode obj p.code
  ns : DenotesText es "ns" p.ns
  setName : DenotesText es "set" p.setName

def Denotes (item : PyObj) (p : Privilege) : Prop :=
  ∃ es, item = .dict es ∧ DenotesEntries es p

theorem codeToPrivilegeCode_eq_ok {n : UInt8} {code : PrivilegeCode} :
    codeToPrivilegeCode n = .ok code ↔ ∃ canonical, code.table = some (n.toNat, canonical) := by
  constructor
  · intro h
    unfold codeToPrivilegeCode at h
    split at h
    case h_11 => cases h
    all_goals
      rename_i hn
      obtain rfl := Except.ok.inj h
      exact ⟨_, by rw [hn]; rfl⟩
  · rintro ⟨canonical, h⟩
    rw [codeToPrivilegeCode]
    cases code <;> simp only [PrivilegeCode.table, Option.some.injEq, Prod.mk.injEq,
      reduceCtorEq] at h
    all_goals
      rw [← h.1]
      rfl

theorem toLower_eq_underscore {c : Char} : c.toLower = '_' ↔ c = '_' := by
  constructor
  · intro h
    unfold Char.toLower at h
    split at h
    case isTrue hupper =>
      have hval : (c.val + 32).toNat = 95 := congrArg (fun d => d.val.toNat) h
      have hlo : 65 ≤ c.val.toNat := UInt32.le_iff_toNat_le.mp hupper.1
      have hhi : c.val.toNat ≤ 90 := UInt32.le_iff_toNat_le.mp hupper.2
      rw [UInt32.toNat_add] at hval
      have h32 : (32 : UInt32).toNat = 32 := rfl
      omega
    case isFalse => exact h
  · rintro rfl
    rfl

theorem nameToPrivilegeCode_eq_ok {name : String} {code : PrivilegeCode} :
    nameToPrivilegeCode crates name = .ok code ↔
      ∃ n canonical, code.table = some (n, canonical) ∧ canonicalSpelling name = canonical := by
  constructor
  · intro h
    unfold nameToPrivilegeCode at h
    split at h
    case h_11 => cases h
    all_goals
      rename_i hname
      obtain rfl := Except.ok.inj h
      exact ⟨_, _, rfl, hname⟩
  · rintro ⟨n, canonical, h, rfl⟩
    cases code <;> simp only [PrivilegeCode.table, Option.some.injEq, Prod.mk.injEq,
      reduceCtorEq] at h
    all_goals
      rw [nameToPrivilegeCode, ← h.2]
      rfl

theorem spells_char {c d : Char} (hd : d ≠ '_') :
    (if c.toLower = '_' then '-' else c.toLower) = d ↔ c.toLower = d ∨ c = '_' ∧ d = '-' := by
  by_cases hc : c = '_'
  · subst hc
    have hlower : Char.toLower '_' = '_' := rfl
    simp [hlower, hd.symm, eq_comm]
  · rw [if_neg (mt toLower_eq_underscore.mp hc)]
    simp [hc]

theorem map_eq_iff_spells {cs ds : List Char} (hds : '_' ∉ ds) :
    ((cs.map Char.toLower).map fun c => if c = '_' then '-' else c) = ds ↔
      List.Forall₂ (fun c d => c.toLower = d ∨ c = '_' ∧ d = '-') cs ds := by
  induction cs generalizing ds with
  | nil => cases ds <;> simp
  | cons c cs ih =>
    cases ds with
    | nil => simp
    | cons d ds =>
      have hd : d ≠ '_' := fun h => hds (h ▸ List.mem_cons_self)
      have hrest := ih fun h => hds (List.mem_cons_of_mem d h)
      rw [List.map_cons, List.map_cons, List.cons.injEq, List.forall₂_cons, hrest, spells_char hd]

theorem canonicalSpelling_eq_iff {name canonical : String} (h : '_' ∉ canonical.toList) :
    canonicalSpelling name = canonical ↔ Spells name canonical := by
  rw [Spells, ← map_eq_iff_spells h, canonicalSpelling]
  constructor
  · intro heq
    rw [← heq, String.toList_ofList]
  · intro heq
    rw [heq, String.ofList_toList]

theorem table_plain {code : PrivilegeCode} {n : Nat} {canonical : String}
    (h : code.table = some (n, canonical)) : '_' ∉ canonical.toList ∧ n < 2 ^ 8 := by
  cases code <;> simp only [PrivilegeCode.table, Option.some.injEq, Prod.mk.injEq,
    reduceCtorEq] at h
  all_goals
    rw [← h.1, ← h.2]
    decide

theorem parseCode_eq_ok {obj : PyObj} {code : PrivilegeCode} :
    parseCode crates obj = .ok code ↔ DenotesCode obj code := by
  constructor
  · intro h
    unfold parseCode at h
    split at h
    case h_1 n hn =>
      obtain ⟨canonical, hcode⟩ := codeToPrivilegeCode_eq_ok.mp h
      exact .integer (extractU8_eq_ok.mp hn) hcode
    case h_2 =>
      split at h
      case h_1 name hname =>
        obtain ⟨n, canonical, hcode, hspell⟩ := (nameToPrivilegeCode_eq_ok crates).mp h
        rw [extractString_eq_ok.mp hname]
        exact .name ((canonicalSpelling_eq_iff (table_plain hcode).1).mp hspell) hcode
      case h_2 => cases h
  · intro h
    cases h with
    | @integer _ _ n canonical hindex hcode =>
      have hn : (UInt8.ofNat n).toNat = n := UInt8.toNat_ofNat_of_lt' (table_plain hcode).2
      have hextract : extractU8 obj = .ok (.ofNat n) := by
        rw [extractU8_eq_ok, hn]
        exact hindex
      rw [parseCode, hextract]
      exact codeToPrivilegeCode_eq_ok.mpr ⟨canonical, by rw [hn]; exact hcode⟩
    | name hname hcode =>
      exact (nameToPrivilegeCode_eq_ok crates).mpr
        ⟨_, _, hcode, (canonicalSpelling_eq_iff (table_plain hcode).1).mpr hname⟩

theorem extractOptionalString_eq_ok {dict : Entries} {fieldName : String} {t : Option String} :
    extractOptionalString dict fieldName = .ok t ↔ DenotesText dict fieldName t := by
  unfold extractOptionalString
  split
  case h_1 h => cases t <;> simp [DenotesText, h]
  case h_2 h => cases t <;> simp [DenotesText, h]
  case h_3 value hnone h =>
    cases hs : extractString value with
    | error e =>
      have hnot : ∀ s, value ≠ .str (.utf8 s) := fun s hvalue => by
        rw [extractString_eq_ok.mpr hvalue] at hs
        cases hs
      cases t with
      | none => simpa [DenotesText, h] using hnone
      | some s => simpa [DenotesText, h] using hnot s
    | ok s =>
      obtain rfl := extractString_eq_ok.mp hs
      cases t <;> simp [DenotesText, h]

theorem codeOf_eq_ok {dict : Entries} {obj : PyObj} :
    codeOf dict = .ok obj ↔ getStr dict "code" = some obj := by
  unfold codeOf
  cases getStr dict "code" <;> simp

theorem parsePrivilege_eq_ok {item : PyObj} {p : Privilege} :
    parsePrivilege crates item = .ok p ↔ Denotes item p := by
  simp only [parsePrivilege, bind_eq_ok, castDict_eq_ok, codeOf_eq_ok, parseCode_eq_ok,
    extractOptionalString_eq_ok, pure_eq_ok, Except.ok.injEq]
  constructor
  · rintro ⟨es, rfl, obj, hobj, code, hcode, ns, hns, setName, hset, rfl⟩
    exact ⟨es, rfl, ⟨obj, hobj, hcode⟩, hns, hset⟩
  · rintro ⟨es, rfl, ⟨obj, hobj, hcode⟩, hns, hset⟩
    exact ⟨es, rfl, obj, hobj, p.code, hcode, p.ns, hns, p.setName, hset, rfl⟩

/-- `admin_create_role` with the fields of what `admin_query_role` returned. -/
def createAgain (queried : PyObj) (policy : Option Entries) : Except PyErr CreateRoleArgs := do
  let dict ← castDict queried
  let field (name : String) : PyObj := (getStr dict name).getD .none
  adminCreateRole crates (field "name") (field "privileges") policy (field "allowlist")
    (field "read_quota") (field "write_quota")

theorem createAgain_roleToPy (role : Role) (policy : Option Entries) :
    createAgain crates (roleToPy role) policy =
      prepareCreateRoleArgs crates role.name (role.privileges.map privilegeToPy) policy
        (some role.allowlist) role.readQuota role.writeQuota := by
  have hwhitelist : extractWhitelist (.list (role.allowlist.map fun s => .str (.utf8 s))) =
      .ok (some role.allowlist) := by
    simp only [extractWhitelist, extractStrings, mapM_extractString]
    rfl
  have hargs : createAgain crates (roleToPy role) policy =
      adminCreateRole crates (.str role.name) (.list (role.privileges.map privilegeToPy)) policy
        (.list (role.allowlist.map fun s => .str (.utf8 s))) (.int role.readQuota.toNat)
        (.int role.writeQuota.toNat) := rfl
  rw [hargs, adminCreateRole, extractString, ok_bind, castList, ok_bind, hwhitelist, ok_bind,
    extractU32_toNat, ok_bind, extractU32_toNat, ok_bind]

theorem privilegeToPy_denotes {p : Privilege} (h : p.code.table.isSome = true) :
    Denotes (privilegeToPy p) p := by
  obtain ⟨⟨n, canonical⟩, hcode⟩ := Option.isSome_iff_exists.mp h
  have hint : (privilegeCodeToInt p.code).toNat = n := by
    obtain ⟨code, ns, setName⟩ := p
    cases code <;> simp only [PrivilegeCode.table, Option.some.injEq, Prod.mk.injEq,
      reduceCtorEq] at hcode
    all_goals
      rw [← hcode.1]
      rfl
  refine ⟨_, rfl, ⟨.int (privilegeCodeToInt p.code).toNat, rfl, ?_⟩, ?_, ?_⟩
  · rw [hint]
    exact .integer rfl hcode
  · cases hns : p.ns with
    | none => cases hset : p.setName <;> exact .inl rfl
    | some ns => rfl
  · cases hset : p.setName with
    | none => cases hns : p.ns <;> exact .inl rfl
    | some set => cases hns : p.ns <;> rfl

theorem parsePrivilege_unknown {p : Privilege} (h : p.code.table = none) :
    parsePrivilege crates (privilegeToPy p) =
      .error ⟨.invalidArgError, "Unknown privilege code: 255"⟩ := by
  have hint : privilegeCodeToInt p.code = 255 := by
    obtain ⟨code, ns, setName⟩ := p
    cases code <;> simp only [PrivilegeCode.table, reduceCtorEq] at h
    rfl
  have hcode : parseCode crates (.int (255 : UInt8).toNat) =
      .error ⟨.invalidArgError, "Unknown privilege code: 255"⟩ := by
    rw [parseCode, extractU8_eq_ok.mpr rfl]
    rfl
  have hfirst : ∀ obj es, codeOf ((.str "code", obj) :: es) = .ok obj := fun _ _ => rfl
  rw [parsePrivilege, privilegeToPy, hint, castDict, ok_bind, hfirst, ok_bind, hcode]
  rfl

/-- What the second call sends: the role, unless a privilege is of a code that the source
does not name. -/
def sentAgain (role : Role) (policy : AdminPolicy) : Except PyErr CreateRoleArgs :=
  if role.privileges.all (·.code.table.isSome) then
    .ok ⟨policy, role.name, role.privileges, role.allowlist, role.readQuota, role.writeQuota⟩
  else .error ⟨.invalidArgError, "Unknown privilege code: 255"⟩

theorem parsePrivileges_shown (privileges : List Privilege) :
    parsePrivileges crates (privileges.map privilegeToPy) =
      if privileges.all (·.code.table.isSome) then .ok privileges
      else .error ⟨.invalidArgError, "Unknown privilege code: 255"⟩ := by
  induction privileges with
  | nil => rfl
  | cons p privileges ih =>
    rw [parsePrivileges, List.map_cons, List.mapM_cons, ← parsePrivileges, ih, List.all_cons]
    cases hcode : p.code.table with
    | none =>
      rw [parsePrivilege_unknown crates hcode]
      rfl
    | some row =>
      rw [(parsePrivilege_eq_ok crates).mpr (privilegeToPy_denotes (by simp [hcode])), ok_bind]
      cases privileges.all (·.code.table.isSome) <;> rfl

theorem createAgain_eq (role : Role) {policy : Option Entries} {adminPolicy : AdminPolicy}
    (h : parseAdminPolicy crates policy = .ok adminPolicy) :
    createAgain crates (roleToPy role) policy = sentAgain role adminPolicy := by
  rw [createAgain_roleToPy, prepareCreateRoleArgs, h, ok_bind, parsePrivileges_shown, sentAgain]
  cases role.privileges.all (·.code.table.isSome) <;> rfl

/-- A list of privilege dicts is accepted exactly when each denotes a privilege, and as the
list of these. A role that was queried can be created again as it is, unless it has a
privilege of a code that the source does not name. -/
theorem roles_kept (items : List PyObj) (privileges : List Privilege) (role : Role)
    (policy : Option Entries) :
    (parsePrivileges crates items = .ok privileges ↔ List.Forall₂ Denotes items privileges) ∧
      ∀ adminPolicy, parseAdminPolicy crates policy = .ok adminPolicy →
        createAgain crates (roleToPy role) policy = sentAgain role adminPolicy := by
  refine ⟨?_, fun adminPolicy h => createAgain_eq crates role h⟩
  rw [parsePrivileges, mapM_eq_ok]
  have hiff : (fun item p => parsePrivilege crates item = .ok p) = Denotes :=
    funext fun _ => funext fun _ => propext (parsePrivilege_eq_ok crates)
  rw [hiff]

def writerRole : Role :=
  ⟨"writer", [⟨.readWrite, none, none⟩, ⟨.write, some "test", some "demo"⟩], ["10.0.0.1"], 100, 0⟩

/-- The privileges of the role, one by its name and one by its code. -/
def writerPrivileges : List PyObj :=
  [.dict [(.str "code", .str "Read_Write"), (.str "ns", .none)],
    .dict [(.str "set", .str "demo"), (.str "code", .int 13), (.str "ns", .str "test")]]

def quotedCrates : AdminCrates := ⟨⟨1000⟩, fun name => "\"" ++ name ++ "\""⟩

theorem roles_kept_writer :
    List.Forall₂ Denotes writerPrivileges writerRole.privileges ∧
      createAgain quotedCrates (roleToPy writerRole) (some [(.str "timeout", .int 500)]) =
        .ok ⟨⟨500⟩, "writer", writerRole.privileges, ["10.0.0.1"], 100, 0⟩ := by
  have hkept := roles_kept quotedCrates writerPrivileges writerRole.privileges writerRole
    (some [(.str "timeout", .int 500)])
  exact ⟨hkept.1.mp rfl, hkept.2 ⟨500⟩ rfl⟩

end AerospikePy.Admin
