import AerospikePy.Lib.Separated
import AerospikePy.Python.Extract

/-!
# The hosts of a config

`host.rs`: the entries of `hosts` become one connection string. The address and the port
of the first of them are kept for the attributes of spans.
-/

namespace AerospikePy.Hosts

open AerospikePy.Lib
open AerospikePy.Lib.Fallible
open AerospikePy.Core
open AerospikePy.Python

def defaultPort : UInt16 := 3000

structure ParsedHosts where
  connectionString : String
  firstAddress : String
  firstPort : UInt16
  deriving DecidableEq, Repr

/-- An entry as it is written: with its address and port apart, or as one text. -/
inductive HostItem where
  | tuple (host : String) (port : UInt16)
  | text (s : String)
  deriving DecidableEq, Repr

def hostItem (item : PyObj) : Except PyErr HostItem :=
  match item with
  | .tuple [] => .error ⟨.valueError,
      "Host tuple must contain at least a host address, got an empty tuple"⟩
  | .tuple (hostObj :: rest) => do
    let host ← extractString hostObj
    let port ← match rest with
      | portObj :: _ => extractU16 portObj
      | [] => .ok defaultPort
    return .tuple host port
  | _ => match extractString item with
    | .ok s => .ok (.text s)
    | .error _ => .error ⟨.typeError, "Host must be a (host, port) tuple or a string"⟩

def withoutPlus : List Char → List Char
  | '+' :: ds => ds
  | ds => ds

/-- `str::parse::<u16>`: decimal digits, after a `+` at most. -/
def parseU16 (s : String) : Option UInt16 :=
  let digits := withoutPlus s.toList
  let n := Nat.ofDigitChars 10 digits 0
  if digits ≠ [] ∧ digits.all (·.isDigit) = true ∧ n < 2 ^ 16 then some (.ofNat n) else none

def rsplitOnce (s : String) (c : Char) : Option (String × String) :=
  (Separated.rsplitOnce c s.toList).map fun (pre, post) => (.ofList pre, .ofList post)

/-- The host and the port of a text with exactly one `:`. -/
def hostPort (s : String) : Option (String × String) :=
  if s.toList.count ':' = 1 then rsplitOnce s ':' else none

namespace HostItem

/-- The address and the port that the first entry leaves for the spans. -/
def first : HostItem → Except PyErr (String × UInt16)
  | tuple host port => .ok (host, port)
  | text s => match hostPort s with
    | some (h, p) => match parseU16 p with
      | some port => .ok (h, port)
      | none => .error ⟨.valueError,
          s!"Invalid port in host string '{s}': '{p}' is not a valid port number"⟩
    -- no `:`, or those of an IPv6 literal
    | none => .ok (s, defaultPort)

def hostString : HostItem → String
  | tuple host port => s!"{host}:{port}"
  | text s => if ':' ∈ s.toList then s else s!"{s}:{defaultPort}"

end HostItem

/-- What the loop has so far. -/
structure Progress where
  hostStrings : List String
  firstAddress : String
  firstPort : UInt16

def pushHost (acc : Progress) (entry : PyObj × Nat) : Except PyErr Progress := do
  let host ← hostItem entry.1
  let (firstAddress, firstPort) ←
    if entry.2 = 0 then host.first else .ok (acc.firstAddress, acc.firstPort)
  return ⟨acc.hostStrings ++ [host.hostString], firstAddress, firstPort⟩

def hostsOf (config : Entries) : Except PyErr PyObj :=
  match getStr config "hosts" with
  | some hostsObj => .ok hostsObj
  | none => .error ⟨.valueError, "Config must contain 'hosts' key"⟩

def parseHostsFromConfig (config : Entries) : Except PyErr ParsedHosts := do
  let hostsObj ← hostsOf config
  let hostsList ← castList hostsObj
  let acc ← hostsList.zipIdx.foldlM pushHost ⟨[], "", defaultPort⟩
  require (acc.hostStrings ≠ []) ⟨.valueError, "hosts list must not be empty"⟩
  return ⟨",".intercalate acc.hostStrings, acc.firstAddress, acc.firstPort⟩

/-- The entries that a config gives. -/
def Gives (config : Entries) (hosts : List HostItem) : Prop :=
  ∃ items, getStr config "hosts" = some (.list items) ∧ items.mapM hostItem = .ok hosts

/-- What is made of these entries: a call accepts them if, and only if, it is this. -/
structure Makes (hosts : List HostItem) (parsed : ParsedHosts) : Prop where
  connectionString : parsed.connectionString = ",".intercalate (hosts.map HostItem.hostString)
  first : ∃ host ∈ hosts.head?, host.first = .ok (parsed.firstAddress, parsed.firstPort)

theorem hostsOf_eq_ok {config : Entries} {obj : PyObj} :
    hostsOf config = .ok obj ↔ getStr config "hosts" = some obj := by
  unfold hostsOf
  cases getStr config "hosts" <;> simp

theorem pushHost_eq_ok {item : PyObj} {n : Nat} {acc acc' : Progress} (hn : 0 < n) :
    pushHost acc (item, n) = .ok acc' ↔ ∃ host, hostItem item = .ok host ∧
      acc' = { acc with hostStrings := acc.hostStrings ++ [host.hostString] } := by
  rw [pushHost, bind_eq_ok]
  refine exists_congr fun host => and_congr_right fun _ => ?_
  rw [if_neg (show n ≠ 0 by omega)]
  show Except.ok _ = _ ↔ _
  rw [Except.ok.injEq, eq_comm]

/-- After the first entry the loop only adds the texts of the others. -/
theorem foldlM_pushHost {items : List PyObj} {n : Nat} {acc acc' : Progress} (hn : 0 < n) :
    (items.zipIdx n).foldlM pushHost acc = .ok acc' ↔ ∃ hosts, items.mapM hostItem = .ok hosts ∧
      acc' = { acc with hostStrings := acc.hostStrings ++ hosts.map HostItem.hostString } := by
  induction items generalizing n acc with
  | nil =>
    rw [List.zipIdx_nil, List.foldlM_nil, List.mapM_nil]
    constructor
    · intro h
      obtain rfl := Except.ok.inj h
      exact ⟨[], rfl, by simp⟩
    · intro h
      obtain ⟨hosts, hhosts, rfl⟩ := h
      obtain rfl := Except.ok.inj hhosts
      simp [pure_eq_ok]
  | cons item items ih =>
    rw [List.zipIdx_cons, List.foldlM_cons, List.mapM_cons, bind_eq_ok]
    simp only [pushHost_eq_ok hn, ih (Nat.succ_pos n), bind_eq_ok, pure_eq_ok]
    constructor
    · intro h
      obtain ⟨_, ⟨host, hhost, rfl⟩, hosts, hhosts, rfl⟩ := h
      exact ⟨host :: hosts, ⟨host, hhost, hosts, hhosts, rfl⟩, by simp⟩
    · intro h
      obtain ⟨_, ⟨host, hhost, hosts, hhosts, hcons⟩, rfl⟩ := h
      obtain rfl := Except.ok.inj hcons
      exact ⟨_, ⟨host, hhost, rfl⟩, hosts, hhosts, by simp⟩

theorem pushHost_zero {item : PyObj} {acc acc' : Progress} :
    pushHost acc (item, 0) = .ok acc' ↔ ∃ host, hostItem item = .ok host ∧
      host.first = .ok (acc'.firstAddress, acc'.firstPort) ∧
      acc'.hostStrings = acc.hostStrings ++ [host.hostString] := by
  rw [pushHost, bind_eq_ok]
  refine exists_congr fun host => and_congr_right fun _ => ?_
  rw [if_pos rfl, bind_eq_ok]
  constructor
  · intro h
    obtain ⟨⟨address, port⟩, hfirst, h⟩ := h
    obtain rfl := Except.ok.inj h
    exact ⟨hfirst, rfl⟩
  · intro h
    exact ⟨_, h.1, by rw [← h.2]; rfl⟩

theorem foldlM_hosts {items : List PyObj} {acc : Progress} :
    items.zipIdx.foldlM pushHost ⟨[], "", defaultPort⟩ = .ok acc ∧ acc.hostStrings ≠ [] ↔
      ∃ host hosts, items.mapM hostItem = .ok (host :: hosts) ∧
        host.first = .ok (acc.firstAddress, acc.firstPort) ∧
        acc.hostStrings = (host :: hosts).map HostItem.hostString := by
  cases items with
  | nil =>
    rw [List.zipIdx_nil, List.foldlM_nil, List.mapM_nil]
    constructor
    · intro h
      obtain rfl := Except.ok.inj h.1
      exact absurd rfl h.2
    · intro h
      obtain ⟨host, hosts, hnil, -⟩ := h
      cases hnil
  | cons item items =>
    rw [List.zipIdx_cons, List.foldlM_cons, List.mapM_cons, bind_eq_ok]
    simp only [pushHost_zero, foldlM_pushHost (Nat.succ_pos 0), bind_eq_ok, pure_eq_ok]
    constructor
    · intro h
      obtain ⟨⟨⟨strings, address, port⟩, ⟨host, hhost, hfirst, hstrings⟩, hosts, hhosts, rfl⟩, -⟩ := h
      obtain rfl : strings = [host.hostString] := hstrings
      exact ⟨host, hosts, ⟨host, hhost, hosts, hhosts, rfl⟩, hfirst, rfl⟩
    · intro h
      obtain ⟨host, hosts, ⟨_, hhost, _, hhosts, hcons⟩, hfirst, hstrings⟩ := h
      obtain ⟨rfl, rfl⟩ := List.cons.inj (Except.ok.inj hcons)
      refine ⟨⟨⟨[_], _, _⟩, ⟨_, hhost, hfirst, rfl⟩, _, hhosts, ?_⟩, by rw [hstrings]; simp⟩
      cases acc
      rw [Progress.mk.injEq]
      exact ⟨hstrings, rfl, rfl⟩

theorem parseHostsFromConfig_eq_ok {config : Entries} {parsed : ParsedHosts} :
    parseHostsFromConfig config = .ok parsed ↔ ∃ hosts, Gives config hosts ∧ Makes hosts parsed := by
  constructor
  · intro h
    obtain ⟨hostsObj, hobj, h⟩ := bind_eq_ok.mp h
    obtain ⟨items, hitems, h⟩ := bind_eq_ok.mp h
    obtain ⟨acc, hacc, h⟩ := bind_eq_ok.mp h
    obtain ⟨_, hne, h⟩ := bind_eq_ok.mp h
    obtain rfl := Except.ok.inj h
    obtain rfl := castList_eq_ok.mp hitems
    obtain ⟨host, hosts, hmap, hfirst, hstrings⟩ :=
      foldlM_hosts.mp ⟨hacc, require_eq_ok.mp hne⟩
    refine ⟨host :: hosts, ⟨items, hostsOf_eq_ok.mp hobj, hmap⟩, ?_, host, rfl, hfirst⟩
    rw [hstrings]
  · intro h
    obtain ⟨hosts, ⟨items, hobj, hitems⟩, hconn, host, hhead, hfirst⟩ := h
    obtain ⟨rest, rfl⟩ := List.head?_eq_some_iff.mp hhead
    obtain ⟨hacc, hne⟩ := (@foldlM_hosts items ⟨_, _, _⟩).mpr ⟨host, rest, hitems, hfirst, rfl⟩
    refine bind_eq_ok.mpr ⟨_, hostsOf_eq_ok.mpr hobj, ?_⟩
    refine bind_eq_ok.mpr ⟨items, rfl, ?_⟩
    refine bind_eq_ok.mpr ⟨_, hacc, ?_⟩
    obtain ⟨connectionString, address, port⟩ := parsed
    obtain rfl : connectionString = _ := hconn
    exact require_bind hne _ _

end AerospikePy.Hosts
