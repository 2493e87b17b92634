import DnsBlocklist.Proofs.IpSet.History
import DnsBlocklist.Proofs.Text.Fields

/-! Lines that a load skips. Each gives one warning and does nothing else, so the text without them
loads the same set. -/

namespace DnsBlocklist.IpSet
set_option autoImplicit false

/-- The line is not silent, sets no default and enters no range. -/
structure Rejected (hostBits : HostBits) (base : Listing) (raw : Text) : Prop where
  loud : ¬ Silent raw
  noDefault : ∀ l, ¬ SetsDefault base raw l
  noEntry : ∀ r e, ¬ EntryWritten hostBits base raw r e

/-- Lines apart, where `base` is in force before the first one and `n` is its number: the numbers of
the rejected lines, and the lines that set a default or enter a range. -/
inductive Sifted (hostBits : HostBits) :
    Listing → Nat → List Text → List Nat → List Text → Prop where
  | nil {base : Listing} {n : Nat} : Sifted hostBits base n [] [] []
  | silent {base : Listing} {n : Nat} {raw : Text} {raws kept : List Text} {numbers : List Nat} :
      Silent raw → Sifted hostBits base (n + 1) raws numbers kept →
      Sifted hostBits base n (raw :: raws) numbers kept
  | initial {base l : Listing} {n : Nat} {raw : Text} {raws kept : List Text}
      {numbers : List Nat} :
      SetsDefault base raw l → Sifted hostBits l (n + 1) raws numbers kept →
      Sifted hostBits base n (raw :: raws) numbers (raw :: kept)
  | entry {base : Listing} {n : Nat} {raw : Text} {raws kept : List Text} {numbers : List Nat}
      {r : Range} {e : Entry} :
      EntryWritten hostBits base raw r e → Sifted hostBits base (n + 1) raws numbers kept →
      Sifted hostBits base n (raw :: raws) numbers (raw :: kept)
  | rejected {base : Listing} {n : Nat} {raw : Text} {raws kept : List Text}
      {numbers : List Nat} :
      Rejected hostBits base raw → Sifted hostBits base (n + 1) raws numbers kept →
      Sifted hostBits base n (raw :: raws) (n :: numbers) kept

namespace Line

theorem read_eq_ignored_iff (hostBits : HostBits) (base : Listing) (raw : Text) :
    read hostBits base raw = ignored ↔ Silent raw := by
  constructor
  · intro h
    rcases read_cases hostBits base raw with ⟨hsilent, -⟩ | ⟨t, -, hread⟩ | ⟨word, rest, -, hread⟩ |
      ⟨word, rest, -, hread⟩
    · exact hsilent
    · rw [hread] at h
      cases hl : readListing? base t <;> simp [hl] at h
    · rw [hread, readExcluded] at h
      split at h <;> cases h
    · rw [hread, readListed] at h
      repeat' split at h
      all_goals cases h
  · intro h
    exact read_eq_ignored_of_isComment hostBits base ((isComment_eq_true_iff raw).mpr h)

/-- What a line does is said by the relations for the three kinds of lines, or it is skipped. -/
theorem exists_skipped_iff (hostBits : HostBits) (base : Listing) (raw : Text) :
    (∃ problem, read hostBits base raw = skipped problem) ↔ Rejected hostBits base raw := by
  constructor
  · rintro ⟨problem, hread⟩
    refine ⟨fun h => ?_, not_setsDefault hostBits (by simp [hread]), not_entryWritten (by simp [hread])⟩
    rw [(read_eq_ignored_iff hostBits base raw).mpr h] at hread
    cases hread
  · intro h
    cases hread : read hostBits base raw with
    | ignored => exact absurd ((read_eq_ignored_iff ..).mp hread) h.loud
    | initial l => exact absurd ((read_eq_initial_iff ..).mp hread) (h.noDefault l)
    | entry r e => exact absurd ((read_eq_entry_iff ..).mp hread) (h.noEntry r e)
    | skipped problem => exact ⟨problem, rfl⟩

end Line

/-! One line. -/

namespace Loading

variable {hostBits : HostBits} {raw : Text}

theorem step_of_silent (hostBits : HostBits) (l : Loading) (h : Silent raw) :
    step hostBits l raw = { l with lines := l.lines + 1 } := by
  rw [step, (Line.read_eq_ignored_iff hostBits l.base raw).mpr h]
  rfl

theorem step_of_rejected (l : Loading) (h : Rejected hostBits l.base raw) :
    ∃ problem, step hostBits l raw =
      { l with lines := l.lines + 1, warnings := ⟨l.lines + 1, problem⟩ :: l.warnings } := by
  obtain ⟨problem, hread⟩ := (Line.exists_skipped_iff ..).mpr h
  exact ⟨problem, by rw [step, hread]; rfl⟩

theorem step_of_invalid_default (hostBits : HostBits) (l : Loading) {t : Text}
    (hraw : Text.trim raw = ':' :: t) (hvalue : ∀ d, ¬ ListingWritten l.base t d) :
    step hostBits l raw =
      { l with lines := l.lines + 1, warnings := ⟨l.lines + 1, .defaultValue⟩ :: l.warnings } := by
  have hnone : readListing? l.base t = none :=
    Option.eq_none_iff_forall_ne_some.mpr fun d hd =>
      hvalue d ((readListing?_eq_some_iff l.base t d).mp hd)
  rw [step, Line.read_eq_of_colon hostBits l.base hraw, hnone]
  rfl

theorem step_of_invalid_value (l : Loading) {word rest : Text} {r : Range}
    (hraw : WordThen (Text.trim raw) word rest) (hr : Range.read? hostBits word = some r)
    (hvalue : ∀ d, ¬ ValueWritten l.base (Text.trim rest) d) :
    step hostBits l raw =
      { l with lines := l.lines + 1, warnings := ⟨l.lines + 1, .value⟩ :: l.warnings } := by
  have hnone : readValue? l.base (Text.trim rest) = none :=
    Option.eq_none_iff_forall_ne_some.mpr fun d hd =>
      hvalue d ((readValue?_eq_some_iff l.base _ d).mp hd)
  simp only [step, Line.read_eq_readListed_of_read? l.base hraw hr, Line.readListed, hr, hnone]
  rfl

end Loading

/-! All lines. -/

theorem Entries.silent {hostBits : HostBits} {base : Listing} {raw : Text} {raws : List Text}
    {history : List (Range × Entry)} (hraw : Silent raw)
    (h : Entries hostBits base raws history) : Entries hostBits base (raw :: raws) history := by
  have hread := (Line.read_eq_ignored_iff hostBits base raw).mpr hraw
  exact .other (Line.not_setsDefault hostBits (by simp [hread]))
    (Line.not_entryWritten (by simp [hread])) h

theorem exists_sifted (hostBits : HostBits) (base : Listing) (n : Nat) (raws : List Text) :
    ∃ numbers kept, Sifted hostBits base n raws numbers kept := by
  induction raws generalizing base n with
  | nil => exact ⟨[], [], .nil⟩
  | cons raw raws ih =>
    cases hread : Line.read hostBits base raw with
    | ignored =>
      obtain ⟨numbers, kept, h⟩ := ih base (n + 1)
      exact ⟨numbers, kept, .silent ((Line.read_eq_ignored_iff ..).mp hread) h⟩
    | initial l =>
      obtain ⟨numbers, kept, h⟩ := ih l (n + 1)
      exact ⟨numbers, raw :: kept, .initial ((Line.read_eq_initial_iff ..).mp hread) h⟩
    | entry r e =>
      obtain ⟨numbers, kept, h⟩ := ih base (n + 1)
      exact ⟨numbers, raw :: kept, .entry ((Line.read_eq_entry_iff ..).mp hread) h⟩
    | skipped problem =>
      obtain ⟨numbers, kept, h⟩ := ih base (n + 1)
      exact ⟨n :: numbers, kept,
        .rejected ((Line.exists_skipped_iff ..).mp ⟨problem, hread⟩) h⟩

namespace Sifted

variable {hostBits : HostBits} {base : Listing} {n : Nat} {raws kept : List Text}
  {numbers : List Nat}

theorem sublist (h : Sifted hostBits base n raws numbers kept) : kept.Sublist raws := by
  induction h with
  | nil => exact .slnil
  | silent _ _ ih => exact ih.cons _
  | initial _ _ ih => exact ih.cons_cons _
  | entry _ _ ih => exact ih.cons_cons _
  | rejected _ _ ih => exact ih.cons _

/-- The lines that are kept mean the same without the others, and none of them is rejected. -/
theorem again (h : Sifted hostBits base n raws numbers kept) (m : Nat) :
    Sifted hostBits base m kept [] kept := by
  induction h generalizing m with
  | nil => exact .nil
  | silent _ _ ih => exact ih m
  | initial hset _ ih => exact .initial hset (ih (m + 1))
  | entry hentry _ ih => exact .entry hentry (ih (m + 1))
  | rejected _ _ ih => exact ih m

theorem ascending (h : Sifted hostBits base n raws numbers kept) :
    (∀ k ∈ numbers, n ≤ k) ∧ numbers.Pairwise (· < ·) := by
  induction h with
  | nil => exact ⟨by simp, .nil⟩
  | silent _ _ ih | initial _ _ ih | entry _ _ ih =>
    exact ⟨fun k hk => Nat.le_of_succ_le (ih.1 k hk), ih.2⟩
  | rejected _ _ ih =>
    refine ⟨fun k hk => ?_, List.pairwise_cons.mpr ⟨ih.1, ih.2⟩⟩
    rcases List.mem_cons.mp hk with rfl | hk
    · exact Nat.le_refl _
    · exact Nat.le_of_succ_le (ih.1 k hk)

/-- Both lists of lines have the same history. -/
theorem exists_entries (h : Sifted hostBits base n raws numbers kept) :
    ∃ history, Entries hostBits base raws history ∧ Entries hostBits base kept history := by
  induction h with
  | nil => exact ⟨[], .nil, .nil⟩
  | silent hsilent _ ih =>
    obtain ⟨history, hraws, hkept⟩ := ih
    exact ⟨history, hraws.silent hsilent, hkept⟩
  | initial hset _ ih =>
    obtain ⟨history, hraws, hkept⟩ := ih
    exact ⟨history, .initial hset hraws, .initial hset hkept⟩
  | entry hentry _ ih =>
    obtain ⟨history, hraws, hkept⟩ := ih
    exact ⟨_ :: history, .entry hentry hraws, .entry hentry hkept⟩
  | rejected hrejected _ ih =>
    obtain ⟨history, hraws, hkept⟩ := ih
    exact ⟨history, .other hrejected.noDefault hrejected.noEntry hraws, hkept⟩

theorem warnings_foldl (h : Sifted hostBits base n raws numbers kept) {l : Loading}
    (hbase : l.base = base) (hlines : l.lines + 1 = n) :
    (raws.foldl (Loading.step hostBits) l).warnings.map (·.line) =
      numbers.reverse ++ l.warnings.map (·.line) := by
  induction h generalizing l with
  | nil => rfl
  | silent hsilent _ ih =>
    rw [List.foldl_cons, l.step_of_silent hostBits hsilent]
    exact ih hbase (congrArg (· + 1) hlines)
  | initial hset _ ih =>
    subst hbase
    rw [List.foldl_cons, l.step_of_setsDefault hostBits hset]
    exact ih rfl (congrArg (· + 1) hlines)
  | entry hentry _ ih =>
    subst hbase
    rw [List.foldl_cons, l.step_of_entryWritten hentry]
    exact ih rfl (congrArg (· + 1) hlines)
  | rejected hrejected _ ih =>
    -- The newest warning stands first, so the numbers come out in reverse.
    subst hbase hlines
    obtain ⟨problem, hstep⟩ := l.step_of_rejected hrejected
    have htail := ih (l := ⟨l.set, l.base, l.lines + 1, ⟨l.lines + 1, problem⟩ :: l.warnings⟩) rfl rfl
    rw [List.foldl_cons, hstep, htail, List.map_cons, List.reverse_cons, List.append_assoc]
    rfl

theorem lines_load {t : Text}
    (h : Sifted hostBits Listing.initial 1 (t.splitOn '\n') numbers kept) (s : IpSet) :
    (load hostBits s t).2.map (·.line) = numbers := by
  have hwarnings := h.warnings_foldl (l := Loading.start s) rfl rfl
  rw [load, List.map_reverse, hwarnings]
  simp [Loading.start]

/-- The lines that are kept, as a text of their own. -/
theorem join_kept (h : Sifted hostBits Listing.initial n raws numbers kept)
    (hlines : ∀ raw ∈ raws, '\n' ∉ raw) {history : List (Range × Entry)}
    (hkept : Entries hostBits Listing.initial kept history) :
    Sifted hostBits Listing.initial 1 ((Text.join ['\n'] kept).splitOn '\n') [] kept ∧
    Entries hostBits Listing.initial ((Text.join ['\n'] kept).splitOn '\n') history := by
  cases kept with
  | nil =>
    -- No line is left, and the empty text is one blank line.
    have hblank : Silent [] := Or.inl rfl
    exact ⟨.silent hblank .nil, hkept.silent hblank⟩
  | cons raw rest =>
    rw [Text.splitOn_join (List.cons_ne_nil raw rest) fun piece hpiece =>
      hlines piece (h.sublist.subset hpiece)]
    exact ⟨h.again 1, hkept⟩

end Sifted

/-- The lines of a text that are rejected give one warning each, in order, and no more come of it:
without them, blank lines and comments the text loads the same set with no warning. A default that
is not valid leaves the one in force, and a range whose value is not valid is not entered. -/
theorem load_sifted (hostBits : HostBits) (s : IpSet) (t : Text) :
    (∃ numbers kept, Sifted hostBits Listing.initial 1 (t.splitOn '\n') numbers kept) ∧
    (∀ numbers kept, Sifted hostBits Listing.initial 1 (t.splitOn '\n') numbers kept →
      (load hostBits s t).2.map (·.line) = numbers ∧
      (load hostBits s t).2.length = numbers.length ∧
      numbers.Pairwise (· < ·) ∧
      load hostBits s (Text.join ['\n'] kept) = ((load hostBits s t).1, [])) ∧
    (∀ (l : Loading) raw t, Text.trim raw = ':' :: t → (∀ d, ¬ ListingWritten l.base t d) →
      l.step hostBits raw =
        ⟨l.set, l.base, l.lines + 1, ⟨l.lines + 1, .defaultValue⟩ :: l.warnings⟩) ∧
    ∀ (l : Loading) raw word rest r, WordThen (Text.trim raw) word rest →
      Range.read? hostBits word = some r → (∀ d, ¬ ValueWritten l.base (Text.trim rest) d) →
      l.step hostBits raw =
        ⟨l.set, l.base, l.lines + 1, ⟨l.lines + 1, .value⟩ :: l.warnings⟩ := by
  refine ⟨exists_sifted hostBits Listing.initial 1 _, fun numbers kept h => ?_,
    fun l raw t hraw hvalue => l.step_of_invalid_default hostBits hraw hvalue,
    fun l raw word rest r hraw hr hvalue => l.step_of_invalid_value hraw hr hvalue⟩
  obtain ⟨history, hraws, hkept⟩ := h.exists_entries
  obtain ⟨hsifted, hjoined⟩ := h.join_kept (fun _ => Text.notMem_of_mem_splitOn) hkept
  have hwarnings := h.lines_load s
  refine ⟨hwarnings, by rw [← hwarnings, List.length_map], h.ascending.2, Prod.ext ?_ ?_⟩
  · exact (hjoined.load_eq s).trans (hraws.load_eq s).symm
  · exact List.map_eq_nil_iff.mp (hsifted.lines_load s)

/-- A default that is not valid, a range, and the same range with a value that is not valid. -/
def badValues : Text := ":x\n10.0.0.1\n10.0.0.1 :300".toList

theorem load_sifted_badValues :
    Sifted .reject Listing.initial 1 (badValues.splitOn '\n') [1, 3] ["10.0.0.1".toList] ∧
    (load .reject empty badValues).2.map (·.line) = [1, 3] ∧
    load .reject empty "10.0.0.1".toList = ((load .reject empty badValues).1, []) ∧
    (∀ d, ¬ ListingWritten Listing.initial ['x'] d) ∧
    (Loading.start empty).step .reject ":x".toList =
      ⟨empty, Listing.initial, 1, [⟨1, .defaultValue⟩]⟩ ∧
    (∀ d, ¬ ValueWritten Listing.initial ":300".toList d) ∧
    (Loading.start empty).step .reject "10.0.0.1 :300".toList =
      ⟨empty, Listing.initial, 1, [⟨1, .value⟩]⟩ := by
  have hentry : EntryWritten .reject Listing.initial "10.0.0.1".toList
      (Range.around (Ipv4.ofOctets 10 0 0 1) 32) (some Listing.initial) :=
    (Line.read_eq_entry_iff ..).mp (by decide +kernel)
  have hsifted : Sifted .reject Listing.initial 1 (badValues.splitOn '\n') [1, 3]
      ["10.0.0.1".toList] :=
    .rejected ((Line.exists_skipped_iff ..).mp ⟨.defaultValue, by decide +kernel⟩)
      (.entry hentry
        (.rejected ((Line.exists_skipped_iff ..).mp ⟨.value, by decide +kernel⟩) .nil))
  have hlisting : ∀ d, ¬ ListingWritten Listing.initial ['x'] d := by
    intro d hd
    have hread := (readListing?_eq_some_iff ..).mpr hd
    rw [show readListing? Listing.initial ['x'] = none by decide +kernel] at hread
    cases hread
  have hvalue : ∀ d, ¬ ValueWritten Listing.initial ":300".toList d := by
    intro d hd
    have hread := (readValue?_eq_some_iff ..).mpr hd
    rw [show readValue? Listing.initial ":300".toList = none by decide +kernel] at hread
    cases hread
  have hword : WordThen (Text.trim "10.0.0.1 :300".toList) "10.0.0.1".toList " :300".toList := by
    refine ⟨rfl, (Text.cut?_eq_none_iff Text.isBlank _).mp rfl, fun c hc => ?_⟩
    rw [← Option.some.inj hc]
    rfl
  obtain ⟨-, hload, hinitial, hline⟩ := load_sifted .reject empty badValues
  obtain ⟨hlines, -, -, hkept⟩ := hload _ _ hsifted
  exact ⟨hsifted, hlines, hkept, hlisting,
    hinitial (Loading.start empty) ":x".toList ['x'] rfl hlisting, hvalue,
    hline (Loading.start empty) _ _ _ (Range.around (Ipv4.ofOctets 10 0 0 1) 32) hword
      (by decide +kernel) hvalue⟩

end DnsBlocklist.IpSet
