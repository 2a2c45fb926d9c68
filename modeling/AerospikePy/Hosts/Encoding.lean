import AerospikePy.Hosts.Convert

/-!
# What a connection string tells

The entries of `hosts` are printed side by side, and nothing marks where an address ends:
an address may have commas, and the colons of an IPv6 address are those before a port.
-/

namespace AerospikePy.Hosts

open AerospikePy.Lib
open AerospikePy.Lib.Fallible
open AerospikePy.Core
open AerospikePy.Python

theorem toList_port (port : UInt16) : (toString port).toList = Nat.toDigits 10 port.toNat := by
  show (toString port.toNat).toList = _
  rw [Nat.toString_eq_ofList_toDigits, String.toList_ofList]

theorem isDigit_of_mem_port {port : UInt16} {c : Char} (h : c ∈ (toString port).toList) :
    c.isDigit = true := by
  rw [toList_port] at h
  exact Nat.isDigit_of_mem_toDigits (by decide) (by decide) h

theorem not_mem_port {c : Char} (hc : c.isDigit = false) (port : UInt16) :
    c ∉ (toString port).toList := by
  intro h
  rw [isDigit_of_mem_port h] at hc
  cases hc

theorem colon_not_mem_port (port : UInt16) : ':' ∉ (toString port).toList :=
  not_mem_port (by decide) port

theorem toList_hostColonPort (host : String) (port : UInt16) :
    (s!"{host}:{port}").toList = host.toList ++ ':' :: (toString port).toList := by
  show (host ++ ":" ++ toString port).toList = _
  simp

theorem withoutPlus_of_digits {ds : List Char} (h : ∀ c ∈ ds, c.isDigit = true) :
    withoutPlus ds = ds := by
  unfold withoutPlus
  split
  · next ds =>
    have hplus := h '+' List.mem_cons_self
    exact absurd hplus (by decide)
  · rfl

/-- A port is read back from its digits. -/
theorem parseU16_toString (port : UInt16) : parseU16 (toString port) = some port := by
  have hdigits : ∀ c ∈ (toString port).toList, c.isDigit = true := fun _ => isDigit_of_mem_port
  have hvalue : Nat.ofDigitChars 10 (toString port).toList 0 = port.toNat := by
    rw [toList_port, Nat.ofDigitChars_ten_toDigits]
  have hne : (toString port).toList ≠ [] := by
    rw [toList_port]
    exact Nat.toDigits_ne_nil
  have hsmall : port.toNat < 2 ^ 16 := port.toNat_lt
  unfold parseU16
  dsimp only
  rw [withoutPlus_of_digits hdigits, hvalue,
    if_pos ⟨hne, List.all_eq_true.mpr hdigits, hsmall⟩, UInt16.ofNat_toNat]

theorem hostPort_eq_some {s h p : String} : hostPort s = some (h, p) ↔
    s.toList = h.toList ++ ':' :: p.toList ∧ ':' ∉ h.toList ∧ ':' ∉ p.toList := by
  have hsplit : rsplitOnce s ':' = some (h, p) ↔
      s.toList = h.toList ++ ':' :: p.toList ∧ ':' ∉ p.toList := by
    rw [← Separated.rsplitOnce_eq_some, rsplitOnce, Option.map_eq_some_iff]
    constructor
    · intro hex
      obtain ⟨⟨pre, post⟩, hsome, heq⟩ := hex
      obtain ⟨rfl, rfl⟩ := Prod.mk.inj heq
      rw [hsome, String.toList_ofList, String.toList_ofList]
    · intro hsome
      exact ⟨_, hsome, by simp⟩
  rw [hostPort, Option.ite_none_right_eq_some, hsplit]
  constructor
  · intro hall
    obtain ⟨hcount, hs, hp⟩ := hall
    rw [hs, List.count_append, List.count_cons_self, List.count_eq_zero.mpr hp] at hcount
    exact ⟨hs, List.count_eq_zero.mp (by omega), hp⟩
  · intro hall
    obtain ⟨hs, hh, hp⟩ := hall
    refine ⟨?_, hs, hp⟩
    rw [hs, List.count_append, List.count_cons_self, List.count_eq_zero.mpr hp,
      List.count_eq_zero.mpr hh]

theorem hostPort_eq_none {s : String} (h : s.toList.count ':' ≠ 1) : hostPort s = none := if_neg h

theorem hostPort_hostColonPort {host : String} (h : ':' ∉ host.toList) (port : UInt16) :
    hostPort s!"{host}:{port}" = some (host, toString port) :=
  hostPort_eq_some.mpr ⟨toList_hostColonPort host port, h, colon_not_mem_port port⟩

theorem count_hostColonPort (host : String) (port : UInt16) :
    (s!"{host}:{port}").toList.count ':' = host.toList.count ':' + 1 := by
  rw [toList_hostColonPort, List.count_append, List.count_cons_self,
    List.count_eq_zero.mpr (colon_not_mem_port port)]

theorem hostColonPort_ne (host : String) (port : UInt16) : s!"{host}:{port}" ≠ host := by
  intro h
  have hcount := count_hostColonPort host port
  rw [h] at hcount
  omega

namespace HostItem

/-- The address and the port that an entry stands for. What follows its `:` may be no port
in any entry but the first. -/
def denotes : HostItem → String × Option UInt16
  | tuple host port => (host, some port)
  | text s => match hostPort s with
    | some (h, p) => (h, parseU16 p)
    | none => (s, some defaultPort)

theorem first_eq_ok {host : HostItem} {address : String} {port : UInt16} :
    host.first = .ok (address, port) ↔ host.denotes = (address, some port) := by
  cases host with
  | tuple h p => simp [first, denotes]
  | text s =>
    rw [first, denotes]
    cases hostPort s with
    | none => simp
    | some r =>
      obtain ⟨h, p⟩ := r
      dsimp only
      cases parseU16 p <;> simp

theorem hostString_of_mem {s : String} (h : ':' ∈ s.toList) : (text s).hostString = s := if_pos h

theorem hostString_of_not_mem {s : String} (h : ':' ∉ s.toList) :
    (text s).hostString = s!"{s}:{defaultPort}" := if_neg h

/-- A text with several `:` is printed as it is, and denotes an address of its own. -/
theorem text_of_many {s : String} (h : 2 ≤ s.toList.count ':') :
    (text s).hostString = s ∧ (text s).denotes = (s, some defaultPort) := by
  refine ⟨hostString_of_mem (List.count_pos_iff.mp (by omega)), ?_⟩
  rw [denotes, hostPort_eq_none (by omega)]

/-- With one `:` the printed text is read as the entry was. -/
theorem denotes_of_count {host : HostItem} (h : host.hostString.toList.count ':' = 1) :
    host.denotes = (text host.hostString).denotes := by
  have hread : ∀ address (port : UInt16), ':' ∉ address.toList →
      (text s!"{address}:{port}").denotes = (address, some port) := by
    intro address port haddress
    rw [denotes, hostPort_hostColonPort haddress]
    exact congrArg (Prod.mk address) (parseU16_toString port)
  cases host with
  | tuple address port =>
    have hcount : (s!"{address}:{port}").toList.count ':' = 1 := h
    rw [count_hostColonPort] at hcount
    exact (hread address port (List.count_eq_zero.mp (by omega))).symm
  | text s =>
    by_cases hs : ':' ∈ s.toList
    · rw [hostString_of_mem hs]
    · rw [hostString_of_not_mem hs, hread s defaultPort hs, denotes, hostPort_eq_none]
      rw [List.count_eq_zero.mpr hs]
      decide

/-- The address as it is written, with a port in it or not. -/
def written : HostItem → String
  | tuple host _ => host
  | text s => s

/-- Nothing in the entry is taken for the end of an address: there is no comma, no `:` in
the address of a tuple, and no IPv6 literal that ends like a host and its port. -/
structure Plain (host : HostItem) : Prop where
  comma : ',' ∉ host.written.toList
  colon : match host with
    | tuple address _ => ':' ∉ address.toList
    | text s => s.toList.count ':' ≤ 1 ∨
        ∀ (address : String) (port : UInt16), s ≠ s!"{address}:{port}"

theorem comma_mem_hostString {host : HostItem} :
    ',' ∈ host.hostString.toList ↔ ',' ∈ host.written.toList := by
  have hprinted : ∀ (address : String) (port : UInt16),
      ',' ∈ (s!"{address}:{port}").toList ↔ ',' ∈ address.toList := by
    intro address port
    rw [toList_hostColonPort, List.mem_append, List.mem_cons,
      or_iff_left (by simp [@not_mem_port ',' (by decide)])]
  cases host with
  | tuple address port => exact hprinted address port
  | text s =>
    rw [hostString]
    split
    · rfl
    · exact hprinted s defaultPort

/-- What prints a plain entry denotes the same as it. -/
theorem denotes_of_plain {host host' : HostItem} (h : host.Plain)
    (heq : host'.hostString = host.hostString) : host'.denotes = host.denotes := by
  by_cases hcount : host.hostString.toList.count ':' = 1
  · have hcount' : host'.hostString.toList.count ':' = 1 := by rw [heq, hcount]
    rw [denotes_of_count hcount, denotes_of_count hcount', heq]
  · have htuple : ∀ {address : String} {port : UInt16}, ':' ∉ address.toList →
        (s!"{address}:{port}").toList.count ':' = 1 := by
      intro address port haddress
      rw [count_hostColonPort, List.count_eq_zero.mpr haddress]
    have htext : ∀ {s : String}, (text s).hostString.toList.count ':' ≠ 1 → ':' ∈ s.toList := by
      intro s hs
      by_contra hnot
      rw [hostString_of_not_mem hnot] at hs
      exact hs (htuple hnot)
    cases host with
    | tuple address port => exact absurd (htuple h.colon) hcount
    | text s =>
      have hs := htext hcount
      rw [hostString_of_mem hs] at heq hcount
      have hmany : 0 < s.toList.count ':' := List.count_pos_iff.mpr hs
      have hshape := h.colon.resolve_left (by omega)
      cases host' with
      | tuple address port => exact absurd heq.symm (hshape address port)
      | text s' =>
        have hs' : ':' ∈ s'.toList := htext (by rwa [heq])
        rw [hostString_of_mem hs'] at heq
        rw [heq]

/-- Any other entry without a comma is also printed for an entry that denotes something else,
and that may come first. -/
theorem exists_twin {host : HostItem} (hcomma : ',' ∉ host.written.toList) (h : ¬ host.Plain) :
    ∃ host' : HostItem, host'.hostString = host.hostString ∧ host'.denotes ≠ host.denotes ∧
      ∃ v, host'.first = .ok v := by
  have hne : ∀ {address : String} {port port' : UInt16},
      ((s!"{address}:{port}", some port') : String × Option UInt16) ≠ (address, some port) := by
    intro address port port' heq
    exact hostColonPort_ne address port (Prod.mk.inj heq).1
  cases host with
  | tuple address port =>
    have hcolon : ':' ∈ address.toList := by
      by_contra hnot
      exact h ⟨hcomma, hnot⟩
    have hpos : 0 < address.toList.count ':' := List.count_pos_iff.mpr hcolon
    have hmany : 2 ≤ (s!"{address}:{port}").toList.count ':' := by
      rw [count_hostColonPort]
      omega
    obtain ⟨hprinted, hdenotes⟩ := text_of_many hmany
    refine ⟨text s!"{address}:{port}", hprinted, ?_, _, first_eq_ok.mpr hdenotes⟩
    rw [hdenotes]
    exact hne
  | text s =>
    have hshape : ¬ (s.toList.count ':' ≤ 1 ∨
        ∀ (address : String) (port : UInt16), s ≠ s!"{address}:{port}") := fun hs => h ⟨hcomma, hs⟩
    rw [not_or] at hshape
    obtain ⟨hcount, hall⟩ := hshape
    push Not at hall
    obtain ⟨address, port, rfl⟩ := hall
    obtain ⟨hprinted, hdenotes⟩ := text_of_many (Nat.lt_of_not_le hcount)
    refine ⟨tuple address port, hprinted.symm, ?_, _, rfl⟩
    rw [hdenotes]
    exact hne.symm

end HostItem

/-- Split at its commas, the string gives the hosts one by one. -/
def OneEntryPerHost (hosts : List HostItem) (connectionString : String) : Prop :=
  connectionString.toList.splitOn ',' = hosts.map fun host => host.hostString.toList

section Accepted

variable {hosts : List HostItem} {parsed : ParsedHosts}

theorem Makes.toList_connectionString (h : Makes hosts parsed) :
    parsed.connectionString.toList =
      [','].intercalate (hosts.map fun host => host.hostString.toList) := by
  rw [h.connectionString, String.toList_intercalate, List.map_map]
  rfl

theorem Makes.ne_nil (h : Makes hosts parsed) : hosts ≠ [] := by
  obtain ⟨host, hhead, -⟩ := h.first
  rintro rfl
  cases hhead

theorem Makes.oneEntryPerHost_iff (h : Makes hosts parsed) :
    OneEntryPerHost hosts parsed.connectionString ↔ ∀ host ∈ hosts, ',' ∉ host.written.toList := by
  have hne : (hosts.map fun host => host.hostString.toList) ≠ [] := by simpa using h.ne_nil
  rw [OneEntryPerHost, h.toList_connectionString, Separated.splitOn_intercalate_iff hne,
    List.forall_mem_map]
  simp only [HostItem.comma_mem_hostString]

theorem Makes.first_denotes (h : Makes hosts parsed) :
    ∃ host ∈ hosts.head?, host.denotes = (parsed.firstAddress, some parsed.firstPort) := by
  obtain ⟨host, hhead, hfirst⟩ := h.first
  exact ⟨host, hhead, HostItem.first_eq_ok.mp hfirst⟩

def HostItem.toObj : HostItem → PyObj
  | tuple host port => .tuple [.str host, .int port.toNat]
  | text s => .str s

theorem hostItem_toObj (host : HostItem) : hostItem host.toObj = .ok host := by
  cases host with
  | tuple host port =>
    have hsmall := port.toNat_lt
    have hindex : extractWithin 0 (2 ^ 16 - 1) (.int port.toNat) = .ok (port.toNat : Int) :=
      extractWithin_eq_ok.mpr ⟨rfl, by omega, by omega⟩
    have hport : extractU16 (.int port.toNat) = .ok port := by
      rw [extractU16, bind_of_eq_ok hindex, Int.toNat_natCast, UInt16.ofNat_toNat]
      rfl
    show (extractU16 (.int port.toNat) >>= fun p => .ok (HostItem.tuple host p)) = _
    rw [hport]
    rfl
  | text s => rfl

theorem Makes.exists_config (h : Makes hosts parsed) :
    ∃ config, Gives config hosts ∧ parseHostsFromConfig config = .ok parsed := by
  have hgives : Gives [(.str "hosts", .list (hosts.map HostItem.toObj))] hosts := by
    refine ⟨_, rfl, mapM_eq_ok.mpr ?_⟩
    rw [List.forall₂_map_left_iff, List.forall₂_same]
    exact fun host _ => hostItem_toObj host
  exact ⟨_, hgives, parseHostsFromConfig_eq_ok.mpr ⟨hosts, hgives, h⟩⟩

/-- One entry for another in the list, with the same text. -/
theorem Makes.replace {pre post : List HostItem} {host host' : HostItem}
    (h : Makes (pre ++ host :: post) parsed) (heq : host'.hostString = host.hostString)
    (hfirst : ∃ v, host'.first = .ok v) :
    ∃ parsed', Makes (pre ++ host' :: post) parsed' ∧
      parsed'.connectionString = parsed.connectionString := by
  have hconn : parsed.connectionString =
      ",".intercalate ((pre ++ host' :: post).map HostItem.hostString) := by
    rw [h.connectionString, List.map_append, List.map_append, List.map_cons, List.map_cons, heq]
  cases pre with
  | nil =>
    obtain ⟨⟨address, port⟩, hv⟩ := hfirst
    exact ⟨⟨parsed.connectionString, address, port⟩, ⟨hconn, host', rfl, hv⟩, rfl⟩
  | cons first pre =>
    exact ⟨parsed, ⟨hconn, h.first⟩, rfl⟩

end Accepted

/-- No config among these, whose string is the same, denotes something else. -/
def Determines (among : List HostItem → ParsedHosts → Prop) (hosts : List HostItem)
    (parsed : ParsedHosts) : Prop :=
  ∀ config' hosts' parsed', Gives config' hosts' → parseHostsFromConfig config' = .ok parsed' →
    among hosts' parsed' → parsed'.connectionString = parsed.connectionString →
      hosts'.map HostItem.denotes = hosts.map HostItem.denotes

/-- The string is an encoding of the hosts, and what the spans get is the first of them. -/
structure Encodes (among : List HostItem → ParsedHosts → Prop) (hosts : List HostItem)
    (parsed : ParsedHosts) : Prop where
  entries : OneEntryPerHost hosts parsed.connectionString
  determines : Determines among hosts parsed
  first : ∃ host ∈ hosts.head?, host.denotes = (parsed.firstAddress, some parsed.firstPort)

/-- The accepted lists whose string has one entry for each host. -/
def Separate (hosts : List HostItem) (parsed : ParsedHosts) : Prop :=
  OneEntryPerHost hosts parsed.connectionString

section Encoding

variable {hosts : List HostItem} {parsed : ParsedHosts}

theorem map_denotes_of_plain {hosts' : List HostItem} (hplain : ∀ host ∈ hosts, host.Plain)
    (h : (hosts'.map fun host => host.hostString.toList) =
      hosts.map fun host => host.hostString.toList) :
    hosts'.map HostItem.denotes = hosts.map HostItem.denotes := by
  induction hosts generalizing hosts' with
  | nil => rw [List.map_eq_nil_iff.mp h]
  | cons host hosts ih =>
    obtain ⟨hhead, htail⟩ := List.forall_mem_cons.mp hplain
    cases hosts' with
    | nil => cases h
    | cons host' hosts' =>
      rw [List.map_cons, List.map_cons] at h
      obtain ⟨hstring, hstrings⟩ := List.cons.inj h
      rw [List.map_cons, List.map_cons, ih htail hstrings,
        HostItem.denotes_of_plain hhead (String.toList_inj.mp hstring)]

/-- Separate lists: plain entries are determined by the string. -/
theorem determines_of_plain (h : Makes hosts parsed) (hplain : ∀ host ∈ hosts, host.Plain) :
    Determines Separate hosts parsed := by
  intro config' hosts' parsed' _ _ hseparate hsame
  have hentries := h.oneEntryPerHost_iff.mpr fun host hhost => (hplain host hhost).comma
  refine map_denotes_of_plain hplain ?_
  rw [← hentries, ← hsame]
  exact hseparate.symm

theorem plain_of_determines (h : Makes hosts parsed)
    (hentries : OneEntryPerHost hosts parsed.connectionString)
    (hdetermines : Determines Separate hosts parsed) : ∀ host ∈ hosts, host.Plain := by
  intro host hhost
  by_contra hnot
  have hcomma := h.oneEntryPerHost_iff.mp hentries
  obtain ⟨host', hstring, hdenotes, hfirst⟩ := HostItem.exists_twin (hcomma host hhost) hnot
  obtain ⟨pre, post, rfl⟩ := List.append_of_mem hhost
  obtain ⟨parsed', hmakes, hsame⟩ := h.replace hstring hfirst
  obtain ⟨config', hgives, hparse⟩ := hmakes.exists_config
  have hseparate : Separate (pre ++ host' :: post) parsed' := by
    rw [Separate, hsame, OneEntryPerHost, hentries]
    simp [hstring]
  have hmap := hdetermines config' _ parsed' hgives hparse hseparate hsame
  rw [List.map_append, List.map_append] at hmap
  have hcons := List.append_cancel_left hmap
  exact hdenotes (List.cons.inj hcons).1

theorem Gives.unique {config : Entries} {hosts' : List HostItem} (h : Gives config hosts)
    (h' : Gives config hosts') : hosts = hosts' := by
  obtain ⟨items, hitems, hmap⟩ := h
  obtain ⟨items', hitems', hmap'⟩ := h'
  obtain rfl := PyObj.list.inj (Option.some.inj (hitems.symm.trans hitems'))
  exact Except.ok.inj (hmap.symm.trans hmap')

theorem makes_of_parse {config : Entries} (hgives : Gives config hosts)
    (hparse : parseHostsFromConfig config = .ok parsed) : Makes hosts parsed := by
  obtain ⟨hosts', hgives', hmakes⟩ := parseHostsFromConfig_eq_ok.mp hparse
  rwa [hgives.unique hgives']

theorem HostItem.colon_mem_hostString (host : HostItem) : ':' ∈ host.hostString.toList := by
  have hprinted : ∀ (address : String) (port : UInt16), ':' ∈ (s!"{address}:{port}").toList := by
    intro address port
    rw [toList_hostColonPort]
    simp
  cases host with
  | tuple address port => exact hprinted address port
  | text s =>
    rw [hostString]
    split
    · assumption
    · exact hprinted s defaultPort

theorem Makes.length_le_count (h : Makes hosts parsed) :
    hosts.length ≤ parsed.connectionString.toList.count ':' := by
  rw [h.toList_connectionString, Separated.count_intercalate (by decide)]
  have hlength := List.length_le_sum_of_one_le
    ((hosts.map fun host => host.hostString.toList).map (List.count ':')) ?_
  · simpa using hlength
  · intro n hn
    simp only [List.map_map, List.mem_map] at hn
    obtain ⟨host, -, rfl⟩ := hn
    exact List.count_pos_iff.mpr host.colon_mem_hostString

/-- The string of several hosts is also a text of its own, that of an address. -/
theorem length_of_determines (h : Makes hosts parsed)
    (hdetermines : Determines (fun _ _ => True) hosts parsed) : hosts.length = 1 := by
  have hpos : 0 < hosts.length := List.length_pos_iff.mpr h.ne_nil
  by_contra hlength
  have hcount := h.length_le_count
  obtain ⟨hprinted, hdenotes⟩ := @HostItem.text_of_many parsed.connectionString (by omega)
  have hmakes : Makes [.text parsed.connectionString]
      ⟨parsed.connectionString, parsed.connectionString, defaultPort⟩ := by
    refine ⟨?_, _, rfl, HostItem.first_eq_ok.mpr hdenotes⟩
    rw [List.map_singleton, hprinted, String.intercalate_singleton]
  obtain ⟨config', hgives, hparse⟩ := hmakes.exists_config
  have hmap := congrArg List.length (hdetermines config' _ _ hgives hparse True.intro rfl)
  rw [List.length_map, List.length_map] at hmap
  exact hlength hmap.symm

theorem determines_of_singleton {host : HostItem} (h : Makes [host] parsed)
    (hplain : host.Plain) : Determines (fun _ _ => True) [host] parsed := by
  intro config' hosts' parsed' hgives hparse _ hsame
  have hmakes := makes_of_parse hgives hparse
  have hcomma : ',' ∉ parsed'.connectionString.toList := by
    rw [hsame, h.connectionString, List.map_singleton, String.intercalate_singleton,
      HostItem.comma_mem_hostString]
    exact hplain.comma
  refine determines_of_plain h (by simpa using hplain) config' hosts' parsed' hgives hparse ?_ hsame
  refine hmakes.oneEntryPerHost_iff.mpr fun host' hhost' hmem => hcomma ?_
  rw [hmakes.toList_connectionString]
  exact Separated.mem_intercalate (List.mem_map_of_mem hhost')
    (HostItem.comma_mem_hostString.mpr hmem)

/-- A list is encoded without doubt exactly when it has one host, and a plain one: several
hosts share their string with one. Among the lists whose string has an entry for each host,
those of plain hosts are told apart, and no others. -/
theorem encodes_iff {config : Entries} (hgives : Gives config hosts)
    (hparse : parseHostsFromConfig config = .ok parsed) :
    (Encodes (fun _ _ => True) hosts parsed ↔
      hosts.length = 1 ∧ ∀ host ∈ hosts, host.Plain) ∧
    (Encodes Separate hosts parsed ↔ ∀ host ∈ hosts, host.Plain) := by
  have hmakes := makes_of_parse hgives hparse
  have hentries : (∀ host ∈ hosts, host.Plain) →
      OneEntryPerHost hosts parsed.connectionString := fun hplain =>
    hmakes.oneEntryPerHost_iff.mpr fun host hhost => (hplain host hhost).comma
  refine ⟨⟨fun h => ⟨length_of_determines hmakes h.determines, ?_⟩, fun h => ?_⟩,
    fun h => plain_of_determines hmakes h.entries h.determines, fun hplain => ?_⟩
  · refine plain_of_determines hmakes h.entries fun config' hosts' parsed' hgives' hparse' _ => ?_
    exact h.determines config' hosts' parsed' hgives' hparse' True.intro
  · obtain ⟨hlength, hplain⟩ := h
    obtain ⟨host, rfl⟩ := List.length_eq_one_iff.mp hlength
    exact ⟨hentries hplain, determines_of_singleton hmakes (hplain host List.mem_cons_self),
      hmakes.first_denotes⟩
  · exact ⟨hentries hplain, determines_of_plain hmakes hplain, hmakes.first_denotes⟩

end Encoding

def hostsConfig (items : List PyObj) : Entries := [(.str "hosts", .list items)]

theorem encodes_iff_two_hosts :
    Encodes Separate [.tuple "10.0.0.1" 3000, .text "node1:4000"]
      ⟨"10.0.0.1:3000,node1:4000", "10.0.0.1", 3000⟩ := by
  let config := hostsConfig [.tuple [.str "10.0.0.1", .int 3000], .str "node1:4000"]
  have hgives : Gives config [.tuple "10.0.0.1" 3000, .text "node1:4000"] := ⟨_, rfl, rfl⟩
  have hparse : parseHostsFromConfig config =
      .ok ⟨"10.0.0.1:3000,node1:4000", "10.0.0.1", 3000⟩ := by decide
  refine (encodes_iff hgives hparse).2.mpr fun host hhost => ?_
  rcases List.mem_pair.mp hhost with rfl | rfl
  · exact ⟨by decide, by decide⟩
  · exact ⟨by decide, .inl (by decide)⟩

/-- The tuple of an IPv6 address and its port, and the longer address that ends like them. -/
theorem ipv6_hosts_collide :
    parseHostsFromConfig (hostsConfig [.tuple [.str "::1", .int 3000]]) =
      .ok ⟨"::1:3000", "::1", 3000⟩ ∧
    parseHostsFromConfig (hostsConfig [.str "::1:3000"]) =
      .ok ⟨"::1:3000", "::1:3000", 3000⟩ ∧
    ¬ ∀ config hosts parsed, Gives config hosts → parseHostsFromConfig config = .ok parsed →
      Encodes (fun _ _ => True) hosts parsed := by
  have htuple : parseHostsFromConfig (hostsConfig [.tuple [.str "::1", .int 3000]]) =
      .ok ⟨"::1:3000", "::1", 3000⟩ := by decide
  have htext : parseHostsFromConfig (hostsConfig [.str "::1:3000"]) =
      .ok ⟨"::1:3000", "::1:3000", 3000⟩ := by decide
  refine ⟨htuple, htext, fun hall => ?_⟩
  have hgives : Gives (hostsConfig [.tuple [.str "::1", .int 3000]]) [.tuple "::1" 3000] :=
    ⟨_, rfl, rfl⟩
  have hsame := (hall _ _ _ hgives htuple).determines _ [.text "::1:3000"] _ ⟨_, rfl, rfl⟩ htext
    True.intro rfl
  revert hsame
  decide

end AerospikePy.Hosts
