import DnsBlocklist.IpSet.Line
import DnsBlocklist.Proofs.Range.Written

/-! What the lines of a dataset file say, as relations between a line, the default listing in force
and what is written. Reading a line decides these relations. -/

namespace DnsBlocklist
set_option autoImplicit false

namespace IpSet

/-- A place for an address that is left blank stands for the default one. -/
inductive AddressWritten (base : Ipv4) (t : Text) : Ipv4 → Prop where
  | missing : Text.trim t = [] → AddressWritten base t base
  | given {a : Ipv4} : readAnswer? (Text.trim t) = some a → AddressWritten base t a

/-- What follows a first colon: `A`, `A:TXT` or, without a text, `A:`. A listing without a second
colon keeps the default text. -/
inductive ListingWritten (base : Listing) : Text → Listing → Prop where
  | address {t : Text} {a : Ipv4} : ':' ∉ t → AddressWritten base.address t a →
      ListingWritten base t ⟨a, base.text⟩
  | text {t u : Text} {a : Ipv4} : ':' ∉ t → AddressWritten base.address t a →
      Text.trim u ≠ [] → ListingWritten base (t ++ ':' :: u) ⟨a, some (Text.trim u)⟩
  | noText {t u : Text} {a : Ipv4} : ':' ∉ t → AddressWritten base.address t a →
      Text.trim u = [] → ListingWritten base (t ++ ':' :: u) ⟨a, none⟩

/-- What follows a range: nothing, a listing after a colon, or a free text. -/
inductive ValueWritten (base : Listing) : Text → Listing → Prop where
  | nothing : ValueWritten base [] base
  | listing {t : Text} {l : Listing} : ListingWritten base t l → ValueWritten base (':' :: t) l
  | free {t : Text} : t ≠ [] → t.head? ≠ some ':' → ValueWritten base t ⟨base.address, some t⟩

/-- The line is blank or a comment. -/
def Silent (raw : Text) : Prop :=
  Text.trim raw = [] ∨ (Text.trim raw).head? = some '#' ∨ (Text.trim raw).head? = some ';'

/-- The line replaces the default listing. -/
def SetsDefault (base : Listing) (raw : Text) (l : Listing) : Prop :=
  ∃ t, Text.trim raw = ':' :: t ∧ ListingWritten base t l

/-- A text in two: a first word, and the rest that starts with a blank if there is any. -/
structure WordThen (t word rest : Text) : Prop where
  whole : t = word ++ rest
  word_free : ∀ c ∈ word, Text.isBlank c = false
  rest_blank : ∀ c ∈ rest.head?, Text.isBlank c = true

/-- The line enters a range: it lists it, or excludes it with an exclamation mark in front. -/
inductive EntryWritten (hostBits : HostBits) (base : Listing) (raw : Text) :
    Range → Entry → Prop where
  | listed {word rest : Text} {r : Range} {l : Listing} :
      WordThen (Text.trim raw) word rest → Range.read? hostBits word = some r →
      ValueWritten base (Text.trim rest) l → EntryWritten hostBits base raw r (some l)
  | excluded {word rest : Text} {r : Range} :
      WordThen (Text.trim raw) ('!' :: word) rest → Range.read? hostBits word = some r →
      EntryWritten hostBits base raw r none

theorem readAddress_eq_some_iff (base : Ipv4) (t : Text) (a : Ipv4) :
    (if (Text.trim t).isEmpty then some base else readAnswer? (Text.trim t)) = some a ↔
      AddressWritten base t a := by
  constructor
  · intro h
    split at h
    · rename_i hempty
      cases h
      exact .missing (List.isEmpty_iff.mp hempty)
    · exact .given h
  · intro h
    cases h with
    | missing hempty => simp [hempty]
    | given hread =>
      have hne : Text.trim t ≠ [] := by
        intro hnil
        rw [hnil] at hread
        cases hread
      simp [hne, hread]

theorem readListing?_eq_some_iff (base : Listing) (t : Text) (l : Listing) :
    readListing? base t = some l ↔ ListingWritten base t l := by
  have hsplit : ∀ (u : Text) (text : Option Text),
      (if (Text.trim u).isEmpty then some (⟨base.address, text⟩ : Listing)
        else (readAnswer? (Text.trim u)).map (⟨·, text⟩)) = some l ↔
      ∃ a, AddressWritten base.address u a ∧ l = ⟨a, text⟩ := by
    intro u text
    simp only [← readAddress_eq_some_iff]
    split
    · simp [eq_comm]
    · simp only [Option.map_eq_some_iff, eq_comm (a := l)]
  constructor
  · intro h
    rw [readListing?] at h
    cases hcut : Text.cut? (· == ':') t with
    | none =>
      have hfree := (Text.cut?_char_eq_none_iff ':' t).mp hcut
      simp only [hcut] at h
      obtain ⟨a, ha, rfl⟩ := (hsplit _ _).mp h
      exact .address hfree ha
    | some parts =>
      obtain ⟨answer, text⟩ := parts
      obtain ⟨hfree, rfl⟩ := (Text.cut?_char_eq_some_iff ':' t answer text).mp hcut
      simp only [hcut] at h
      obtain ⟨a, ha, rfl⟩ := (hsplit _ _).mp h
      by_cases htext : Text.trim text = []
      · simpa [htext] using ListingWritten.noText hfree ha htext
      · simpa [htext] using ListingWritten.text hfree ha htext
  · intro h
    have hcons : ∀ {t u : Text}, ':' ∉ t →
        Text.cut? (· == ':') (t ++ ':' :: u) = some (t, u) := by
      intro t u ht
      exact (Text.cut?_char_eq_some_iff ':' _ t u).mpr ⟨ht, rfl⟩
    rw [readListing?]
    cases h with
    | address ht ha =>
      have hcut := (Text.cut?_char_eq_none_iff ':' t).mpr ht
      simp only [hcut]
      exact (hsplit _ _).mpr ⟨_, ha, rfl⟩
    | text ht ha hu =>
      simp only [hcons ht]
      refine (hsplit _ _).mpr ⟨_, ha, ?_⟩
      simp [hu]
    | noText ht ha hu =>
      simp only [hcons ht]
      refine (hsplit _ _).mpr ⟨_, ha, ?_⟩
      simp [hu]

theorem readValue?_eq_some_iff (base : Listing) (t : Text) (l : Listing) :
    readValue? base t = some l ↔ ValueWritten base t l := by
  constructor
  · intro h
    rw [readValue?.eq_def] at h
    split at h
    · cases h
      exact .nothing
    · rename_i rest
      exact .listing ((readListing?_eq_some_iff base rest l).mp h)
    · rename_i t hnil hcolon
      cases h
      refine .free (fun h => hnil h) (fun hhead => ?_)
      obtain ⟨rest, rfl⟩ := List.head?_eq_some_iff.mp hhead
      exact hcolon rest rfl
  · intro h
    cases h with
    | nothing => rfl
    | listing hl => exact (readListing?_eq_some_iff base _ l).mpr hl
    | free hne hhead =>
      cases t with
      | nil => exact absurd rfl hne
      | cons c rest =>
        have hc : c ≠ ':' := by simpa using hhead
        simp [readValue?, hc]

/-! Whole lines. -/

theorem cutWord_eq {t word rest : Text} (h : WordThen t word rest) :
    Line.cutWord t = (word, Text.trim rest) := by
  obtain ⟨rfl, hword, hrest⟩ := h
  cases rest with
  | nil =>
    have hcut : Text.cut? Text.isBlank word = none := (Text.cut?_eq_none_iff _ _).mpr hword
    simp [Line.cutWord, hcut, Text.trim]
  | cons c rest =>
    have hc : Text.isBlank c = true := hrest c rfl
    simp only [Line.cutWord, Text.cut?_append_cons hword hc, Text.trim_cons_of_isBlank hc]

theorem exists_wordThen (t : Text) : ∃ word rest, WordThen t word rest := by
  cases hcut : Text.cut? Text.isBlank t with
  | none => exact ⟨t, [], by simp, (Text.cut?_eq_none_iff _ t).mp hcut, by simp⟩
  | some parts =>
    obtain ⟨word, rest⟩ := parts
    obtain ⟨c, hc, hword, rfl⟩ := Text.eq_of_cut? hcut
    exact ⟨word, c :: rest, rfl, hword, by simpa using hc⟩

namespace Line

theorem readListed_eq_entry_iff (hostBits : HostBits) (base : Listing) (word rest : Text)
    (r : Range) (e : Entry) :
    readListed hostBits base word rest = .entry r e ↔
      Range.read? hostBits word = some r ∧ ∃ l, ValueWritten base rest l ∧ e = some l := by
  simp only [← readValue?_eq_some_iff, readListed]
  cases Range.read? hostBits word with
  | none => simp
  | some r' =>
    cases readValue? base rest with
    | none => simp
    | some l => simp [eq_comm]

theorem readExcluded_eq_entry_iff (hostBits : HostBits) (word : Text) (r : Range) (e : Entry) :
    readExcluded hostBits word = .entry r e ↔ Range.read? hostBits word = some r ∧ e = none := by
  simp only [readExcluded]
  cases Range.read? hostBits word with
  | none => simp
  | some r' => simp [eq_comm]

theorem readListed_ne_initial (hostBits : HostBits) (base : Listing) (word rest : Text)
    (l : Listing) : readListed hostBits base word rest ≠ .initial l := by
  simp only [readListed]
  split
  · simp
  · split <;> simp

theorem readExcluded_ne_initial (hostBits : HostBits) (word : Text) (l : Listing) :
    readExcluded hostBits word ≠ .initial l := by
  simp only [readExcluded]
  split <;> simp

theorem read_eq_readExcluded (hostBits : HostBits) (base : Listing) {raw word rest : Text}
    (h : WordThen (Text.trim raw) ('!' :: word) rest) :
    read hostBits base raw = readExcluded hostBits word := by
  have hcut := cutWord_eq h
  have hraw := h.whole
  simp only [hraw, List.cons_append] at hcut
  simp [read, hraw, isComment, hcut]

theorem read_eq_readListed (hostBits : HostBits) (base : Listing) {raw word rest : Text}
    (hcomment : isComment (Text.trim raw) = false) (hcolon : (Text.trim raw).head? ≠ some ':')
    (hbang : word.head? ≠ some '!') (h : WordThen (Text.trim raw) word rest) :
    read hostBits base raw = readListed hostBits base word (Text.trim rest) := by
  rw [read]
  simp only [hcomment, Bool.false_eq_true, if_false]
  split
  · rename_i hraw
    simp [hraw] at hcolon
  · rw [cutWord_eq h]
    split
    · rename_i heq
      simp [show word = _ from heq] at hbang
    · rfl

/-- A range starts with a digit, which tells its line from the other kinds. -/
theorem read_eq_readListed_of_read? {hostBits : HostBits} (base : Listing) {raw word rest : Text}
    {r : Range} (h : WordThen (Text.trim raw) word rest) (hr : Range.read? hostBits word = some r) :
    read hostBits base raw = readListed hostBits base word (Text.trim rest) := by
  obtain ⟨⟨c, cs, rfl, hc⟩, -⟩ := Range.read?_eq_some hr
  have hraw := h.whole
  have hother : ∀ d : Char, d.isDigit = false → c ≠ d := by
    rintro d hd rfl
    rw [hc] at hd
    cases hd
  refine read_eq_readListed hostBits base ?_ ?_ ?_ h
  · simp [hraw, isComment, hother '#' rfl, hother ';' rfl]
  · simp [hraw, hother ':' rfl]
  · simp [hother '!' rfl]

theorem read_eq_of_colon (hostBits : HostBits) (base : Listing) {raw t : Text}
    (h : Text.trim raw = ':' :: t) :
    read hostBits base raw = ((readListing? base t).map initial).getD (skipped .defaultValue) := by
  rw [read]
  simp only [h, isComment]
  cases readListing? base t <;> rfl

theorem isComment_eq_true_iff (raw : Text) : isComment (Text.trim raw) = true ↔ Silent raw := by
  unfold Silent
  cases Text.trim raw with
  | nil => simp [isComment]
  | cons c rest => simp [isComment]

theorem read_eq_ignored_of_isComment (hostBits : HostBits) (base : Listing) {raw : Text}
    (h : isComment (Text.trim raw) = true) : read hostBits base raw = ignored := by
  simp [read, h]

theorem read_cases (hostBits : HostBits) (base : Listing) (raw : Text) :
    (Silent raw ∧ read hostBits base raw = ignored) ∨
    (∃ t, Text.trim raw = ':' :: t ∧
      read hostBits base raw =
        ((readListing? base t).map initial).getD (skipped .defaultValue)) ∨
    (∃ word rest, WordThen (Text.trim raw) ('!' :: word) rest ∧
      read hostBits base raw = readExcluded hostBits word) ∨
    (∃ word rest, WordThen (Text.trim raw) word rest ∧
      read hostBits base raw = readListed hostBits base word (Text.trim rest)) := by
  by_cases hcomment : isComment (Text.trim raw) = true
  · exact Or.inl ⟨(isComment_eq_true_iff raw).mp hcomment,
      read_eq_ignored_of_isComment hostBits base hcomment⟩
  by_cases hcolon : (Text.trim raw).head? = some ':'
  · obtain ⟨t, ht⟩ := List.head?_eq_some_iff.mp hcolon
    exact Or.inr (Or.inl ⟨t, ht, read_eq_of_colon hostBits base ht⟩)
  obtain ⟨word, rest, hword⟩ := exists_wordThen (Text.trim raw)
  by_cases hbang : word.head? = some '!'
  · obtain ⟨word, rfl⟩ := List.head?_eq_some_iff.mp hbang
    exact Or.inr (Or.inr (Or.inl ⟨word, rest, hword, read_eq_readExcluded hostBits base hword⟩))
  · refine Or.inr (Or.inr (Or.inr ⟨word, rest, hword, ?_⟩))
    exact read_eq_readListed hostBits base (by simpa using hcomment) hcolon hbang hword

theorem read_eq_entry_iff (hostBits : HostBits) (base : Listing) (raw : Text) (r : Range)
    (e : Entry) :
    read hostBits base raw = .entry r e ↔ EntryWritten hostBits base raw r e := by
  constructor
  · intro h
    rcases read_cases hostBits base raw with ⟨-, hread⟩ | ⟨t, -, hread⟩ | ⟨word, rest, hword, hread⟩ |
      ⟨word, rest, hword, hread⟩ <;> rw [hread] at h
    · cases h
    · cases hl : readListing? base t <;> simp [hl] at h
    · obtain ⟨hr, rfl⟩ := (readExcluded_eq_entry_iff ..).mp h
      exact .excluded hword hr
    · obtain ⟨hr, l, hl, rfl⟩ := (readListed_eq_entry_iff ..).mp h
      exact .listed hword hr hl
  · intro h
    cases h with
    | listed hword hr hl =>
      rw [read_eq_readListed_of_read? base hword hr]
      exact (readListed_eq_entry_iff ..).mpr ⟨hr, _, hl, rfl⟩
    | excluded hword hr =>
      rw [read_eq_readExcluded hostBits base hword]
      exact (readExcluded_eq_entry_iff ..).mpr ⟨hr, rfl⟩

theorem read_eq_initial_iff (hostBits : HostBits) (base : Listing) (raw : Text) (l : Listing) :
    read hostBits base raw = .initial l ↔ SetsDefault base raw l := by
  constructor
  · intro h
    rcases read_cases hostBits base raw with ⟨-, hread⟩ | ⟨t, ht, hread⟩ | ⟨word, rest, -, hread⟩ |
      ⟨word, rest, -, hread⟩ <;> rw [hread] at h
    · cases h
    · cases hl : readListing? base t with
      | none => simp [hl] at h
      | some l' =>
        simp only [hl, Option.map_some, Option.getD_some, initial.injEq] at h
        subst h
        exact ⟨t, ht, (readListing?_eq_some_iff base t l').mp hl⟩
    · exact (readExcluded_ne_initial hostBits word l h).elim
    · exact (readListed_ne_initial hostBits base word (Text.trim rest) l h).elim
  · rintro ⟨t, ht, hl⟩
    simp [read_eq_of_colon hostBits base ht, (readListing?_eq_some_iff base t l).mpr hl]

theorem not_setsDefault (hostBits : HostBits) {base : Listing} {raw : Text}
    (h : ∀ l, read hostBits base raw ≠ .initial l) (l : Listing) : ¬ SetsDefault base raw l :=
  fun hset => h l ((read_eq_initial_iff hostBits base raw l).mpr hset)

theorem not_entryWritten {hostBits : HostBits} {base : Listing} {raw : Text}
    (h : ∀ r e, read hostBits base raw ≠ .entry r e) (r : Range) (e : Entry) :
    ¬ EntryWritten hostBits base raw r e :=
  fun hentry => h r e ((read_eq_entry_iff hostBits base raw r e).mpr hentry)

end Line

end IpSet

end DnsBlocklist
