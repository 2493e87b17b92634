import DnsBlocklist.Proofs.IpSet.History
import DnsBlocklist.Proofs.Range.Grammar
import Mathlib.Algebra.BigOperators.Fin
import Mathlib.Data.Finset.Card

/-! The buckets of a set and its counter. Whatever loads a set has gone through, also those that stopped
half-way, an entry stands in the bucket of its prefix length under its masked address, and the counter
is the number of ranges that were entered. -/

namespace DnsBlocklist
set_option autoImplicit false

/-- The listing has no text, or one that is not empty. -/
def Listing.Worded (l : Listing) : Prop := l.text ≠ some []

theorem Listing.worded_initial : Listing.initial.Worded := by
  intro h
  cases h

namespace IpSet

/-- The form of a set that was loaded. No range is the whole address space, the bits beyond the prefix
length are clear, and the counter is that of the buckets. -/
structure Formed (s : IpSet) : Prop where
  noneOfZero : s.buckets[0].isEmpty = true
  masked : ∀ (n : Fin 33) (key : BitVec 32), key ∈ s.buckets[n] →
    ∀ i, n.val ≤ i → key.getMsbD i = false
  worded : ∀ (n : Fin 33) (key : BitVec 32) (e : Entry), s.buckets[n][key]? = some e →
    ∀ l ∈ e, l.Worded
  counted : s.size = ∑ n : Fin 33, s.buckets[n].size

/-! One entry. -/

theorem get?_eq_getElem? (s : IpSet) {r : Range} {n : Fin 33} (h : r.length = n.val) :
    s.get? r = s.buckets[n][r.network.bits]? := by
  obtain rfl : n = ⟨r.length, r.length_lt⟩ := Fin.ext h.symm
  rfl

theorem getElem_buckets_insert (s : IpSet) (r : Range) (e : Entry) (n : Fin 33) :
    (s.insert r e).buckets[n] =
      if r.length = n.val then s.buckets[n].insert r.network.bits e else s.buckets[n] := by
  change (s.buckets.set r.length ((s.bucket r).insert r.network.bits e) r.length_lt)[n.val] = _
  rw [Vector.getElem_set]
  split
  · rename_i h
    obtain rfl : n = ⟨r.length, r.length_lt⟩ := Fin.ext h.symm
    rfl
  · rfl

theorem size_getElem_buckets_insert (s : IpSet) (r : Range) (e : Entry) (n : Fin 33) :
    (s.insert r e).buckets[n].size = s.buckets[n].size +
      if ⟨r.length, r.length_lt⟩ = n then if (s.get? r).isSome then 0 else 1 else 0 := by
  rw [getElem_buckets_insert]
  by_cases h : r.length = n.val
  · have hn : (⟨r.length, r.length_lt⟩ : Fin 33) = n := Fin.ext h
    have hget := s.get?_eq_getElem? h
    rw [if_pos h, if_pos hn, Std.TreeMap.size_insert, Std.TreeMap.contains_eq_isSome_getElem?,
      ← hget]
    split <;> rfl
  · have hn : (⟨r.length, r.length_lt⟩ : Fin 33) ≠ n := fun heq => h (congrArg Fin.val heq)
    rw [if_neg h, if_neg hn]
    rfl

theorem formed_empty : empty.Formed := by
  have hbucket : ∀ n : Fin 33, empty.buckets[n] = ∅ := fun n => Vector.getElem_replicate n.isLt
  refine ⟨?_, ?_, ?_, ?_⟩
  · exact congrArg Std.TreeMap.isEmpty (hbucket 0)
  · intro n key hkey
    rw [hbucket n] at hkey
    exact absurd hkey Std.TreeMap.not_mem_emptyc
  · intro n key e h
    rw [hbucket n, Std.TreeMap.getElem?_emptyc] at h
    cases h
  · simp only [hbucket]
    rfl

/-- An entry counts exactly if its range had none before. -/
theorem Formed.insert {s : IpSet} (hs : s.Formed) {r : Range} (hr : 0 < r.length) {e : Entry}
    (he : ∀ l ∈ e, l.Worded) : (s.insert r e).Formed := by
  refine ⟨?_, ?_, ?_, ?_⟩
  · have hzero := s.getElem_buckets_insert r e 0
    rw [if_neg (show r.length ≠ (0 : Fin 33).val from Nat.ne_of_gt hr)] at hzero
    exact (congrArg Std.TreeMap.isEmpty hzero).trans hs.noneOfZero
  · intro n key hkey i hi
    rw [getElem_buckets_insert] at hkey
    split at hkey
    · rename_i hn
      rcases Std.TreeMap.mem_insert.mp hkey with heq | hkey
      · rw [← Std.LawfulEqCmp.compare_eq_iff_eq.mp heq]
        exact (Range.keep_eq_self_iff r.network r.length).mp r.aligned i (hn ▸ hi)
      · exact hs.masked n key hkey i hi
    · exact hs.masked n key hkey i hi
  · intro n key e' h
    rw [getElem_buckets_insert] at h
    split at h
    · rw [Std.TreeMap.getElem?_insert] at h
      split at h
      · cases h
        exact he
      · exact hs.worded n key e' h
    · exact hs.worded n key e' h
  · simp only [size_getElem_buckets_insert]
    rw [Finset.sum_add_distrib, Finset.sum_ite_eq, if_pos (Finset.mem_univ _), ← hs.counted,
      size_insert]
    split <;> rfl

/-- The range of a stored key. -/
theorem Formed.exists_range {s : IpSet} (hs : s.Formed) {n : Fin 33} {key : BitVec 32} {e : Entry}
    (h : s.buckets[n][key]? = some e) :
    ∃ r : Range, r.length = n.val ∧ r.network.bits = key ∧ s.get? r = some e := by
  have hkey : key ∈ s.buckets[n] := by
    rw [Std.TreeMap.mem_iff_isSome_getElem?, h]
    rfl
  have haligned := (Range.keep_eq_self_iff ⟨key⟩ n.val).mpr (hs.masked n key hkey)
  refine ⟨⟨⟨key⟩, n.val, Nat.le_of_lt_succ n.isLt, haligned⟩, rfl, rfl, ?_⟩
  rw [s.get?_eq_getElem? (n := n) rfl, h]

/-! Many entries. -/

theorem Formed.insertAll {s : IpSet} (hs : s.Formed) {h : List (Range × Entry)}
    (hlength : ∀ x ∈ h, 0 < x.1.length) (hworded : ∀ x ∈ h, ∀ l ∈ x.2, l.Worded) :
    (s.insertAll h).Formed := by
  induction h generalizing s with
  | nil => exact hs
  | cons x h ih =>
    have hinsert := hs.insert (hlength x List.mem_cons_self) (hworded x List.mem_cons_self)
    exact ih hinsert (fun y hy => hlength y (List.mem_cons_of_mem x hy))
      fun y hy => hworded y (List.mem_cons_of_mem x hy)

theorem isSome_get?_insertAll (s : IpSet) (h : List (Range × Entry)) (r : Range) :
    ((s.insertAll h).get? r).isSome = true ↔ (s.get? r).isSome = true ∨ r ∈ h.map (·.1) := by
  induction h generalizing s with
  | nil => simp [insertAll]
  | cons x h ih =>
    change (((s.insert x.1 x.2).insertAll h).get? r).isSome = true ↔ _
    rw [ih, get?_insert, List.map_cons, List.mem_cons]
    by_cases hx : x.1 = r
    · simp [hx]
    · have hx' : r ≠ x.1 := Ne.symm hx
      simp [hx, hx']

theorem size_insertAll (h : List (Range × Entry)) :
    (empty.insertAll h).size = (h.map (·.1)).toFinset.card := by
  induction h using List.reverseRecOn with
  | nil => rfl
  | append_singleton h x ih =>
    have hsome := isSome_get?_insertAll empty h x.1
    rw [insertAll_append]
    change ((empty.insertAll h).insert x.1 x.2).size = _
    rw [size_insert, ih, List.map_append, List.map_singleton, List.toFinset_append,
      List.toFinset_cons, List.toFinset_nil, insert_empty_eq, Finset.union_singleton]
    by_cases hx : x.1 ∈ h.map (·.1)
    · rw [if_pos (hsome.mpr (Or.inr hx)), Finset.insert_eq_self.mpr (List.mem_toFinset.mpr hx)]
    · rw [if_neg, Finset.card_insert_of_notMem (mt List.mem_toFinset.mp hx)]
      rw [hsome, get?_empty]
      simpa using hx

/-- What a range holds in the end does not depend on what was there before. -/
theorem exists_get?_insertAll {h : List (Range × Entry)} {r : Range} (hr : r ∈ h.map (·.1)) :
    ∃ e, ∀ s : IpSet, (s.insertAll h).get? r = some e := by
  induction h with
  | nil => cases hr
  | cons x h ih =>
    by_cases hlater : r ∈ h.map (·.1)
    · obtain ⟨e, he⟩ := ih hlater
      exact ⟨e, fun s => he (s.insert x.1 x.2)⟩
    · have hx : x.1 = r := by
        rw [List.map_cons, List.mem_cons] at hr
        exact (hr.resolve_right hlater).symm
      refine ⟨x.2, fun s => ?_⟩
      change ((s.insert x.1 x.2).insertAll h).get? r = some x.2
      have hlast : ∀ y ∈ h, y.1 ≠ r := fun y hy heq =>
        hlater (heq ▸ List.mem_map_of_mem hy)
      rw [get?_insertAll_of_not_mem _ hlast, get?_insert, if_pos hx]

theorem get?_insertAll_twice (s : IpSet) (h : List (Range × Entry)) (r : Range) :
    ((s.insertAll h).insertAll h).get? r = (s.insertAll h).get? r := by
  by_cases hr : r ∈ h.map (·.1)
  · obtain ⟨e, he⟩ := exists_get?_insertAll hr
    rw [he, he]
  · exact get?_insertAll_of_not_mem _ fun y hy heq => hr (heq ▸ List.mem_map_of_mem hy)

theorem size_insertAll_of_isSome {s : IpSet} {h : List (Range × Entry)}
    (hh : ∀ x ∈ h, (s.get? x.1).isSome = true) : (s.insertAll h).size = s.size := by
  induction h generalizing s with
  | nil => rfl
  | cons x h ih =>
    have hsize : (s.insert x.1 x.2).size = s.size := by
      rw [size_insert, if_pos (hh x List.mem_cons_self)]
    change ((s.insert x.1 x.2).insertAll h).size = s.size
    rw [ih, hsize]
    intro y hy
    rw [get?_insert]
    split
    · rfl
    · exact hh y (List.mem_cons_of_mem x hy)

theorem size_insertAll_twice (s : IpSet) (h : List (Range × Entry)) :
    ((s.insertAll h).insertAll h).size = (s.insertAll h).size := by
  apply size_insertAll_of_isSome
  intro x hx
  exact (isSome_get?_insertAll s h x.1).mpr (Or.inr (List.mem_map_of_mem hx))

theorem lookup_eq_of_get?_eq {s t : IpSet} (h : ∀ r, s.get? r = t.get? r) (ip : Ipv4) :
    s.lookup ip = t.lookup ip := by
  have hwalk : ∀ n, s.narrowest ip n = t.narrowest ip n := by
    intro n
    induction n with
    | zero => rfl
    | succ n ih => rw [narrowest, narrowest, h, ih]
  rw [lookup, lookup, hwalk]

theorem narrowest_eq_findSome? (s : IpSet) (ip : Ipv4) (n : Nat) : s.narrowest ip n =
    (List.range n).reverse.findSome? fun k => s.get? (Range.around ip (k + 1)) := by
  induction n with
  | zero => rfl
  | succ n ih =>
    rw [narrowest, ih, List.range_succ, List.reverse_append, List.reverse_singleton,
      List.singleton_append, List.findSome?_cons]
    cases s.get? (Range.around ip (n + 1)) <;> rfl

/-- A look-up asks the buckets from 32 down to 1, each for the address as it is masked there. -/
theorem lookup_eq_findSome? (s : IpSet) (ip : Ipv4) : s.lookup ip =
    ((List.finRange 32).reverse.findSome? fun k =>
      s.buckets[k.succ][(ip.keep k.succ.val).bits]?).join := by
  rw [lookup, narrowest_eq_findSome?, ← List.map_coe_finRange_eq_range, ← List.map_reverse,
    List.findSome?_map]
  refine congrArg (fun ask => Option.join (List.findSome? ask (List.finRange 32).reverse)) ?_
  funext k
  have hmin : min (k.val + 1) 32 = k.succ.val := Nat.min_eq_left k.isLt
  have hkeep : (Range.around ip (k.val + 1)).network = ip.keep k.succ.val := congrArg ip.keep hmin
  rw [Function.comp_apply, s.get?_eq_getElem? (n := k.succ) hmin, hkeep]

/-- A stored entry decides about the addresses of its range that no longer one contains. -/
theorem Formed.lookup_eq {s : IpSet} (hs : s.Formed) (hproper : s.Proper) {n : Fin 33} {ip : Ipv4}
    {e : Entry} (h : s.buckets[n][(ip.keep n.val).bits]? = some e)
    (hlonger : ∀ m : Fin 33, n < m → s.buckets[m][(ip.keep m.val).bits]? = none) :
    s.lookup ip = e := by
  obtain ⟨r, hlength, hnetwork, hget⟩ := hs.exists_range h
  have hcontains : r.contains ip = true := by
    rw [Range.contains, beq_iff_eq, hlength]
    exact Ipv4.ext hnetwork.symm
  refine lookup_of_longest hproper ⟨hget, hcontains, fun r' e' hget' hcontains' => ?_⟩
  by_contra hlt
  have hless : n.val < r'.length := by omega
  have hnone := hlonger ⟨r'.length, r'.length_lt⟩ hless
  rw [Range.contains, beq_iff_eq] at hcontains'
  rw [s.get?_eq_getElem? (n := ⟨r'.length, r'.length_lt⟩) rfl, ← hcontains', hnone] at hget'
  cases hget'

/-! The texts of lines. -/

theorem ListingWritten.worded {base l : Listing} {t : Text} (hbase : base.Worded)
    (h : ListingWritten base t l) : l.Worded := by
  cases h with
  | address => exact hbase
  | text _ _ hne => exact fun heq => hne (Option.some.inj heq)
  | noText =>
    intro heq
    cases heq

theorem ValueWritten.worded {base l : Listing} {t : Text} (hbase : base.Worded)
    (h : ValueWritten base t l) : l.Worded := by
  cases h with
  | nothing => exact hbase
  | listing hl => exact hl.worded hbase
  | free hne => exact fun heq => hne (Option.some.inj heq)

theorem Entries.worded {hostBits : HostBits} {base : Listing} {raws : List Text}
    {h : List (Range × Entry)} (hh : Entries hostBits base raws h) (hbase : base.Worded) :
    ∀ x ∈ h, ∀ l ∈ x.2, l.Worded := by
  induction hh with
  | nil => simp
  | initial hset _ ih =>
    obtain ⟨t, -, hl⟩ := hset
    exact ih (hl.worded hbase)
  | other _ _ _ ih => exact ih hbase
  | entry hentry _ ih =>
    intro x hx l hl
    rcases List.mem_cons.mp hx with rfl | hx
    · cases hentry with
      | listed _ _ hvalue =>
        cases hl
        exact hvalue.worded hbase
      | excluded => cases hl
    · exact ih hbase x hx l hl

/-! Loads, those that fail among them. -/

/-- A load of a text, or of what a file gave when it was read. One that memory runs out for has gone
through some of its lines. -/
inductive LoadCall where
  | text (hostBits : HostBits) (t : Text)
  | file (hostBits : HostBits) (answer : Except OsError Bytes)
  | exhausted (hostBits : HostBits) (t : Text) (lines : Nat)

namespace LoadCall

def run (s : IpSet) : LoadCall → IpSet
  | text hostBits t => (load hostBits s t).1
  | file hostBits (.ok bytes) => (loadBytes hostBits s bytes).1
  | file _ (.error _) => s
  | exhausted hostBits t lines =>
    (((t.splitOn '\n').take lines).foldl (Loading.step hostBits) (Loading.start s)).set

def hostBits : LoadCall → HostBits
  | text hostBits _ | file hostBits _ | exhausted hostBits _ _ => hostBits

/-- The lines that the load goes through. -/
def lines : LoadCall → List Text
  | text _ t => t.splitOn '\n'
  | file _ (.ok bytes) => (Utf8.decode bytes).splitOn '\n'
  | file _ (.error _) => []
  | exhausted _ t lines => (t.splitOn '\n').take lines

theorem run_eq_insertAll {call : LoadCall} {h : List (Range × Entry)}
    (hh : Entries call.hostBits Listing.initial call.lines h) (s : IpSet) :
    call.run s = s.insertAll h := by
  have hfold := hh.set_foldl (l := Loading.start s) rfl
  cases call with
  | text hostBits t => exact hfold
  | file hostBits answer =>
    cases answer with
    | ok bytes => exact hfold
    | error why => exact hfold
  | exhausted hostBits t lines => exact hfold

end LoadCall

def runAll (s : IpSet) (calls : List LoadCall) : IpSet := calls.foldl LoadCall.run s

/-- The entries of all accepted lines that the loads go through. -/
inductive Accepted : List LoadCall → List (Range × Entry) → Prop where
  | nil : Accepted [] []
  | cons {call : LoadCall} {calls : List LoadCall} {h k : List (Range × Entry)} :
      Entries call.hostBits Listing.initial call.lines h → Accepted calls k →
      Accepted (call :: calls) (h ++ k)

theorem exists_accepted (calls : List LoadCall) : ∃ h, Accepted calls h := by
  induction calls with
  | nil => exact ⟨[], .nil⟩
  | cons call calls ih =>
    obtain ⟨h, hh⟩ := exists_entries call.hostBits Listing.initial call.lines
    obtain ⟨k, hk⟩ := ih
    exact ⟨h ++ k, .cons hh hk⟩

namespace Accepted

variable {calls : List LoadCall} {h : List (Range × Entry)}

theorem runAll_eq (hh : Accepted calls h) (s : IpSet) : s.runAll calls = s.insertAll h := by
  induction hh generalizing s with
  | nil => rfl
  | @cons call calls h k hentries _ ih =>
    rw [insertAll_append, ← LoadCall.run_eq_insertAll hentries]
    exact ih _

theorem length_pos (hh : Accepted calls h) : ∀ x ∈ h, 0 < x.1.length := by
  induction hh with
  | nil => simp
  | cons hentries _ ih =>
    intro x hx
    exact (List.mem_append.mp hx).elim (hentries.length_pos x) (ih x)

theorem worded (hh : Accepted calls h) : ∀ x ∈ h, ∀ l ∈ x.2, l.Worded := by
  induction hh with
  | nil => simp
  | cons hentries _ ih =>
    intro x hx
    exact (List.mem_append.mp hx).elim (hentries.worded Listing.worded_initial x) (ih x)

end Accepted

/-- A set after any loads, with the entries of the lines that they accepted. It has 33 buckets in good form,
and the counter is the number of different ranges among the entries. Prefix lengths are from 1 to 32, where
they are read, stored and looked up. A stored entry decides about the addresses of its range that no
longer one contains, and to load once more what was loaded changes nothing. -/
theorem formed_runAll (calls : List LoadCall) :
    (∃ h, Accepted calls h) ∧ ∀ h, Accepted calls h →
      (empty.runAll calls).Formed ∧ (empty.runAll calls).buckets.toList.length = 33 ∧
      (empty.runAll calls).size = (h.map (·.1)).toFinset.card ∧
      ((empty.runAll calls).size = 0 ↔ h = []) ∧
      (∀ t ip n, Range.readParts t = some (ip, n) → 1 ≤ n ∧ n ≤ 32) ∧
      (∀ x ∈ h, 1 ≤ x.1.length ∧ x.1.length ≤ 32) ∧
      (∀ ip, (empty.runAll calls).lookup ip = ((List.finRange 32).reverse.findSome? fun k =>
        (empty.runAll calls).buckets[k.succ][(ip.keep k.succ.val).bits]?).join) ∧
      (∀ (n : Fin 33) (ip : Ipv4) e,
        (empty.runAll calls).buckets[n][(ip.keep n.val).bits]? = some e →
        (∀ m : Fin 33, n < m → (empty.runAll calls).buckets[m][(ip.keep m.val).bits]? = none) →
        (empty.runAll calls).lookup ip = e) ∧
      ∀ call : LoadCall,
        (∀ ip, (call.run (call.run (empty.runAll calls))).lookup ip =
          (call.run (empty.runAll calls)).lookup ip) ∧
        (call.run (call.run (empty.runAll calls))).size = (call.run (empty.runAll calls)).size := by
  refine ⟨exists_accepted calls, fun h hh => ?_⟩
  have hproper := proper_empty.insertAll hh.length_pos
  have hformed := formed_empty.insertAll hh.length_pos hh.worded
  rw [hh.runAll_eq]
  refine ⟨hformed, Vector.length_toList, size_insertAll h, ?_, fun t ip n hread => ?_,
    fun x hx => ⟨hh.length_pos x hx, x.1.length_le⟩, lookup_eq_findSome? _,
    fun n ip e => hformed.lookup_eq hproper, fun call => ?_⟩
  · rw [size_insertAll, Finset.card_eq_zero, List.toFinset_eq_empty_iff, List.map_eq_nil_iff]
  · exact ((Range.readParts_eq_some_iff t ip n).mp hread).bounds
  · obtain ⟨k, hk⟩ := exists_entries call.hostBits Listing.initial call.lines
    simp only [LoadCall.run_eq_insertAll hk]
    exact ⟨lookup_eq_of_get?_eq (get?_insertAll_twice _ k), size_insertAll_twice _ k⟩

/-- A range that is listed twice and an exclusion in it, a file that is missing, and a text that memory
runs out for after it has listed the range again. -/
def threeLoads : List LoadCall :=
  [.text .reject "10.0.0.0/8 wide\n!10.0.0.1\n10".toList, .file .reject (.error .notFound),
    .exhausted .clear "10.0.0.1/8\n10.1".toList 1]

theorem formed_runAll_threeLoads : ∃ h, Accepted threeLoads h ∧ (empty.runAll threeLoads).Formed ∧
    (h.map (·.1)).toFinset.card = 2 ∧ h ≠ [] ∧
    (empty.runAll threeLoads).lookup (Ipv4.ofOctets 10 0 0 1) = none ∧
    (empty.runAll threeLoads).lookup (Ipv4.ofOctets 10 1 0 0) = some Listing.initial := by
  obtain ⟨⟨h, hh⟩, hall⟩ := formed_runAll threeLoads
  obtain ⟨hformed, -, hsize, hempty, -, -, -, -, -⟩ := hall h hh
  have htwo : (empty.runAll threeLoads).size = 2 := by decide +kernel
  refine ⟨h, hh, hformed, hsize.symm.trans htwo, ?_, by decide +kernel, by decide +kernel⟩
  rw [ne_eq, ← hempty, htwo]
  decide

end IpSet

end DnsBlocklist
