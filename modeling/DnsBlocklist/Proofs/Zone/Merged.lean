import DnsBlocklist.Proofs.Name.RoundTrip
import DnsBlocklist.Proofs.Text.Fields
import DnsBlocklist.Proofs.Zone.Shadow
import Mathlib.Data.List.Forall2

/-! Declarations of one name. Each adds its files to the zone of its name, so the zones keep every file of
every declaration, and only the files of each name and the order of the first declarations count. -/

namespace DnsBlocklist
set_option autoImplicit false

theorem eraseDups_append_singleton {α : Type} [DecidableEq α] (xs : List α) (x : α) :
    (xs ++ [x]).eraseDups = xs.eraseDups ++ if x ∈ xs then [] else [x] := by
  rw [List.eraseDups_append]
  by_cases hx : x ∈ xs
  · simp [List.removeAll, hx]
  · simp [List.removeAll, hx, List.eraseDups_cons]

namespace Name

theorem equals_lower_withRoot (n : Name) (rooted : Bool) : n.Equals (n.lower.withRoot rooted) := by
  change n.lower.labels = n.lower.lower.labels
  rw [lower_lower]

theorem lower_withRoot_eq_iff {n o : Name} (hlower : o.lower = o) (hrooted : o.rooted = true) :
    n.lower.withRoot true = o ↔ n.Equals o := by
  constructor
  · rintro rfl
    exact n.equals_lower_withRoot true
  · intro h
    refine ext_of ?_ hrooted.symm
    rw [← hlower]
    exact h

end Name

namespace Declaration

/-- The text declares a zone: its name stands in front of the first colon and the type in front of the
second, and what follows are its files with commas between them, empty names left out. -/
inductive Written : Text → Declaration → Prop where
  | mk {name : Text} {n : Name} {pieces : List Path} : ':' ∉ name → name ≠ [] →
      Name.read name = .ok n → (∀ p ∈ pieces, ',' ∉ p) → pieces.filter (!·.isEmpty) ≠ [] →
      Written (name ++ ':' :: (datasetType ++ ':' :: Text.join [','] pieces))
        ⟨n, pieces.filter (!·.isEmpty)⟩

/-- The declaration with its origin in small letters and with a final dot. -/
def canonical (w : Declaration) : Declaration := { w with origin := w.origin.lower.withRoot true }

theorem fields?_eq_some_iff {t name type files : Text} :
    fields? t = some (name, type, files) ↔
      ':' ∉ name ∧ ':' ∉ type ∧ t = name ++ ':' :: (type ++ ':' :: files) := by
  unfold fields?
  constructor
  · intro h
    split at h
    · cases h
    rename_i first rest hfirst
    split at h
    · cases h
    rename_i second last hsecond
    cases h
    obtain ⟨hname, rfl⟩ := (Text.cut?_char_eq_some_iff ':' _ _ _).mp hfirst
    obtain ⟨htype, rfl⟩ := (Text.cut?_char_eq_some_iff ':' _ _ _).mp hsecond
    exact ⟨hname, htype, rfl⟩
  · rintro ⟨hname, htype, rfl⟩
    rw [(Text.cut?_char_eq_some_iff ':' _ _ _).mpr ⟨hname, rfl⟩]
    dsimp only
    rw [(Text.cut?_char_eq_some_iff ':' _ _ _).mpr ⟨htype, rfl⟩]

theorem Written.read {t : Text} {w : Declaration} (h : Written t w) :
    Declaration.read t = .ok w.canonical := by
  obtain @⟨name, n, pieces, hcolon, hne, hname, hcommas, hfiles⟩ := h
  have hpieces : pieces ≠ [] := by
    rintro rfl
    exact hfiles rfl
  have hsplit : splitFiles (Text.join [','] pieces) = pieces.filter (!·.isEmpty) := by
    rw [splitFiles, Text.splitOn_join hpieces hcommas]
  unfold Declaration.read
  rw [fields?_eq_some_iff.mpr ⟨hcolon, by decide, rfl⟩]
  dsimp only
  rw [if_neg (by simp), if_neg (by simpa using hne), hname, hsplit]
  dsimp only
  rw [if_neg (by simpa using hfiles), canonical]

theorem exists_written_of_read {t : Text} {d : Declaration} (h : read t = .ok d) :
    ∃ w, Written t w ∧ w.canonical = d := by
  unfold read at h
  split at h
  · cases h
  rename_i name type files hfields
  split at h
  · cases h
  rename_i htype
  split at h
  · cases h
  rename_i hne
  split at h
  · cases h
  rename_i n hname
  split at h
  · cases h
  rename_i hfiles
  cases h
  obtain ⟨hcolon, -, rfl⟩ := fields?_eq_some_iff.mp hfields
  have hwritten : Written (name ++ ':' :: (datasetType ++ ':' :: Text.join [','] (files.splitOn ',')))
      ⟨n, (files.splitOn ',').filter (!·.isEmpty)⟩ :=
    .mk hcolon (by simpa using hne) hname (fun _ => Text.notMem_of_mem_splitOn)
      (by simpa [splitFiles] using hfiles)
  rw [Text.join_splitOn] at hwritten
  exact ⟨_, not_not.mp htype ▸ hwritten, rfl⟩

theorem readAllFrom_eq_ok_iff {zones zs : List Declaration} {ts : List Text} :
    readAllFrom zones ts = .ok zs ↔
      ∃ ws, List.Forall₂ Written ts ws ∧ (ws.map canonical).foldl add zones = zs := by
  induction ts generalizing zones with
  | nil => simp [readAllFrom]
  | cons t ts ih =>
    rw [readAllFrom]
    constructor
    · intro h
      split at h
      · cases h
      rename_i d hread
      obtain ⟨w, hw, rfl⟩ := exists_written_of_read hread
      obtain ⟨ws, hws, hzs⟩ := ih.mp h
      exact ⟨w :: ws, .cons hw hws, hzs⟩
    · rintro ⟨all, hall, hzs⟩
      obtain ⟨w, ws, hw, hws, rfl⟩ := List.forall₂_cons_left_iff.mp hall
      rw [hw.read]
      exact ih.mpr ⟨ws, hws, hzs⟩

theorem readAllFrom_append (zones : List Declaration) (ts us : List Text) :
    readAllFrom zones (ts ++ us) =
      match readAllFrom zones ts with
      | .error fault => .error fault
      | .ok zs => readAllFrom zs us := by
  induction ts generalizing zones with
  | nil => rfl
  | cons t ts ih =>
    rw [List.cons_append, readAllFrom, readAllFrom]
    cases read t with
    | error fault => rfl
    | ok d => exact ih (add zones d)

/-! What adding one declaration does, and from it what adding a list does. -/

/-- The files of a declaration, each with the zone that it belongs to. -/
def placed (d : Declaration) : List (Name × Path) := d.files.map fun f => (d.origin, f)

theorem placed_add (zones : List Declaration) (d : Declaration) :
    ((add zones d).flatMap placed).Perm (zones.flatMap placed ++ d.placed) := by
  induction zones with
  | nil => simp [add]
  | cons z zs ih =>
    by_cases hz : z.origin = d.origin
    · have hplaced : placed { z with files := z.files ++ d.files } = z.placed ++ d.placed := by
        simp only [placed, List.map_append, hz]
      rw [add, if_pos hz, List.flatMap_cons, List.flatMap_cons, hplaced, List.append_assoc,
        List.append_assoc]
      exact List.perm_append_comm.append_left z.placed
    · rw [add, if_neg hz, List.flatMap_cons, List.flatMap_cons, List.append_assoc]
      exact ih.append_left z.placed

theorem placed_foldl_add (ds : List Declaration) :
    ((ds.foldl add []).flatMap placed).Perm (ds.flatMap placed) := by
  induction ds using List.reverseRecOn with
  | nil => rfl
  | append_singleton ds d ih =>
    rw [List.foldl_append, List.flatMap_append, List.flatMap_singleton]
    exact (placed_add _ d).trans (ih.append_right d.placed)

theorem nodup_map_origin_foldl_add (ds : List Declaration) :
    ((ds.foldl add []).map (·.origin)).Nodup := by
  induction ds using List.reverseRecOn with
  | nil => exact List.nodup_nil
  | append_singleton ds d ih =>
    rw [List.foldl_append]
    exact nodup_map_origin_add ih

theorem map_origin_foldl_add (ds : List Declaration) :
    (ds.foldl add []).map (·.origin) = (ds.map (·.origin)).eraseDups := by
  induction ds using List.reverseRecOn with
  | nil => rfl
  | append_singleton ds d ih =>
    rw [List.foldl_append, List.foldl_cons, List.foldl_nil, map_origin_add, ih, List.map_append,
      List.map_singleton, eraseDups_append_singleton]
    simp only [List.mem_eraseDups]

theorem filesOf_foldl_add (o : Name) (ds : List Declaration) :
    filesOf o (ds.foldl add []) = filesOf o ds := by
  induction ds using List.reverseRecOn with
  | nil => rfl
  | append_singleton ds d ih =>
    rw [List.foldl_append, List.foldl_cons, List.foldl_nil,
      filesOf_add o _ d (nodup_map_origin_foldl_add ds), ih]
    by_cases hd : d.origin = o <;> simp [filesOf, hd]

theorem filesOf_origin {zs : List Declaration} (hnodup : (zs.map (·.origin)).Nodup)
    {z : Declaration} (hz : z ∈ zs) : filesOf z.origin zs = z.files := by
  obtain ⟨before, after, rfl⟩ := List.append_of_mem hz
  rw [List.map_append, List.map_cons, List.nodup_middle, List.nodup_cons, ← List.map_append] at hnodup
  have hothers : ∀ y ∈ before ++ after, y.origin ≠ z.origin := fun y hy heq =>
    hnodup.1 (List.mem_map.mpr ⟨y, hy, heq⟩)
  have hbefore : before.filter (·.origin = z.origin) = [] := by
    rw [List.filter_eq_nil_iff]
    intro y hy
    simpa using hothers y (List.mem_append_left _ hy)
  have hafter : after.filter (·.origin = z.origin) = [] := by
    rw [List.filter_eq_nil_iff]
    intro y hy
    simpa using hothers y (List.mem_append_right _ hy)
  simp [filesOf, hbefore, hafter]

theorem add_add (zones : List Declaration) {d e : Declaration} (h : e.origin = d.origin) :
    add (add zones d) e = add zones { d with files := d.files ++ e.files } := by
  induction zones with
  | nil => simp [add, h]
  | cons z zs ih =>
    by_cases hz : z.origin = d.origin
    · simp [add, hz, h]
    · simp [add, hz, h, ih]

theorem foldl_add_add (zones : List Declaration) (d : Declaration) {es : List Declaration}
    (h : ∀ e ∈ es, e.origin = d.origin) :
    es.foldl add (add zones d) = add zones { d with files := d.files ++ es.flatMap (·.files) } := by
  induction es generalizing d with
  | nil => simp
  | cons e es ih =>
    rw [List.foldl_cons, add_add zones (h e List.mem_cons_self),
      ih { d with files := d.files ++ e.files } fun x hx => h x (List.mem_cons_of_mem e hx),
      List.flatMap_cons, List.append_assoc]

/-! The zones of declarations as they are written. -/

/-- The origins that are declared, in the order of their first declarations. -/
def origins (ws : List Declaration) : List Name := (ws.map (·.canonical.origin)).eraseDups

/-- The files of all declarations of a name. -/
def declared (o : Name) (ws : List Declaration) : List Path :=
  (ws.filter fun w => w.origin.Equals o).flatMap (·.files)

/-- The zones hold what was declared, all of it and nothing else. -/
structure Merged (ws zs : List Declaration) : Prop where
  lower : ∀ z ∈ zs, z.origin.lower = z.origin
  rooted : ∀ z ∈ zs, z.origin.rooted = true
  different : zs.Pairwise fun y z => ¬ y.origin.Equals z.origin
  ordered : zs.map (·.origin) = origins ws
  files : ∀ z ∈ zs, z.files = declared z.origin ws
  own : ∀ w ∈ ws, ∃! z, z ∈ zs ∧ w.origin.Equals z.origin
  kept : (zs.flatMap placed).Perm (ws.flatMap fun w => w.canonical.placed)
  nonempty : ∀ z ∈ zs, z.files ≠ [] ∧ [] ∉ z.files

/-- The declarations determine the zones. -/
theorem Merged.eq {ws zs : List Declaration} (h : Merged ws zs) :
    zs = (origins ws).map fun o => ⟨o, declared o ws⟩ := by
  rw [← h.ordered, List.map_map]
  symm
  refine (List.map_congr_left fun z hz => ?_).trans zs.map_id
  simp only [Function.comp_apply, ← h.files z hz, id_eq]

theorem filesOf_map_canonical {o : Name} (hlower : o.lower = o) (hrooted : o.rooted = true)
    (ws : List Declaration) : filesOf o (ws.map canonical) = declared o ws := by
  have hsame : ∀ w : Declaration, (w.canonical.origin = o) ↔ w.origin.Equals o := fun w =>
    Name.lower_withRoot_eq_iff hlower hrooted
  unfold filesOf declared
  rw [List.filter_map, List.flatMap_map]
  simp only [Function.comp_def, hsame]
  rfl

theorem Written.files_nonempty {t : Text} {w : Declaration} (h : Written t w) :
    w.files ≠ [] ∧ [] ∉ w.files := by
  obtain @⟨name, n, pieces, -, -, -, -, hfiles⟩ := h
  refine ⟨hfiles, fun hmem => ?_⟩
  have hnonempty := (List.mem_filter.mp hmem).2
  cases hnonempty

theorem declared_nonempty {ts : List Text} {ws : List Declaration}
    (h : List.Forall₂ Written ts ws) {o : Name} (hdeclared : ∃ w ∈ ws, w.origin.Equals o) :
    declared o ws ≠ [] ∧ [] ∉ declared o ws := by
  have hfiles : ∀ w ∈ ws, w.files ≠ [] ∧ [] ∉ w.files := by
    clear hdeclared
    induction h with
    | nil => exact List.forall_mem_nil _
    | cons hw _ ih => exact List.forall_mem_cons.mpr ⟨hw.files_nonempty, ih⟩
  have hmem : ∀ w, w ∈ ws.filter (fun w => w.origin.Equals o) ↔ w ∈ ws ∧ w.origin.Equals o := by
    simp
  obtain ⟨w, hw, hequals⟩ := hdeclared
  constructor
  · intro hnil
    exact (hfiles w hw).1 (List.flatMap_eq_nil_iff.mp hnil w ((hmem w).mpr ⟨hw, hequals⟩))
  · intro hempty
    obtain ⟨v, hv, hin⟩ := List.mem_flatMap.mp hempty
    exact (hfiles v ((hmem v).mp hv).1).2 hin

theorem mem_origins_iff {o : Name} {ws : List Declaration} :
    o ∈ origins ws ↔ ∃ w ∈ ws, w.canonical.origin = o := by
  rw [origins, List.mem_eraseDups, List.mem_map]

namespace Distinct

variable {zs : List Declaration} (h : Distinct zs)

include h

theorem canonical_origin_eq_iff (w : Declaration) {z : Declaration} (hz : z ∈ zs) :
    w.canonical.origin = z.origin ↔ w.origin.Equals z.origin :=
  Name.lower_withRoot_eq_iff (h.lower z hz) (h.rooted z hz)

theorem pairwise_not_equals : zs.Pairwise fun y z => ¬ y.origin.Equals z.origin := by
  refine (List.pairwise_map.mp h.nodup).imp_of_mem fun hy hz hne hequals => hne ?_
  exact h.eq_of_equals hy hz hequals

theorem existsUnique_zone {w : Declaration} (hw : w.canonical.origin ∈ zs.map (·.origin)) :
    ∃! z, z ∈ zs ∧ w.origin.Equals z.origin := by
  obtain ⟨z, hz, heq⟩ := List.mem_map.mp hw
  refine ⟨z, ⟨hz, (h.canonical_origin_eq_iff w hz).mp heq.symm⟩, ?_⟩
  rintro y ⟨hy, hequals⟩
  refine List.inj_on_of_nodup_map h.nodup hy hz ?_
  rw [heq, (h.canonical_origin_eq_iff w hy).mpr hequals]

end Distinct

theorem merged_foldl_add {ts : List Text} {ws : List Declaration} (h : List.Forall₂ Written ts ws) :
    Merged ws ((ws.map canonical).foldl add []) := by
  have hdistinct : Distinct ((ws.map canonical).foldl add []) :=
    distinct_of_readAll (readAllFrom_eq_ok_iff.mpr ⟨ws, h, rfl⟩)
  have hordered := map_origin_foldl_add (ws.map canonical)
  have hkept := placed_foldl_add (ws.map canonical)
  have hfilesOf := fun o => filesOf_foldl_add o (ws.map canonical)
  generalize (ws.map canonical).foldl add [] = zs at *
  rw [List.map_map] at hordered
  rw [List.flatMap_map] at hkept
  change zs.map (·.origin) = origins ws at hordered
  have hfiles : ∀ z ∈ zs, z.files = declared z.origin ws := fun z hz => by
    rw [← filesOf_map_canonical (hdistinct.lower z hz) (hdistinct.rooted z hz), ← hfilesOf,
      filesOf_origin hdistinct.nodup hz]
  refine ⟨hdistinct.lower, hdistinct.rooted, hdistinct.pairwise_not_equals, hordered, hfiles,
    fun w hw => ?_, hkept, fun z hz => ?_⟩
  · exact hdistinct.existsUnique_zone (hordered ▸ mem_origins_iff.mpr ⟨w, hw, rfl⟩)
  · have hmem : z.origin ∈ zs.map (·.origin) := List.mem_map_of_mem hz
    rw [hordered] at hmem
    obtain ⟨w, hw, heq⟩ := mem_origins_iff.mp hmem
    rw [hfiles z hz]
    exact declared_nonempty h ⟨w, hw, (hdistinct.canonical_origin_eq_iff w hz).mp heq⟩

theorem readAll_eq_ok_iff_merged {ts : List Text} {zs : List Declaration} :
    readAll ts = .ok zs ↔ ∃ ws, List.Forall₂ Written ts ws ∧ Merged ws zs := by
  constructor
  · intro h
    obtain ⟨ws, hws, rfl⟩ := readAllFrom_eq_ok_iff.mp h
    exact ⟨ws, hws, merged_foldl_add hws⟩
  · rintro ⟨ws, hws, hmerged⟩
    rw [hmerged.eq, ← (merged_foldl_add hws).eq]
    exact readAllFrom_eq_ok_iff.mpr ⟨ws, hws, rfl⟩

/-- Declarations of one name do together what one does that has the files of all of them. -/
theorem readAllFrom_of_split {w : Declaration} {us : List Text} {ws : List Declaration}
    (hne : w.files ≠ []) (hus : List.Forall₂ Written us ws)
    (hsame : ∀ v ∈ ws, v.origin.Equals w.origin) (hfiles : ws.flatMap (·.files) = w.files)
    (zones : List Declaration) : readAllFrom zones us = .ok (add zones w.canonical) := by
  have horigin : ∀ v ∈ ws, v.canonical.origin = w.canonical.origin := fun v hv =>
    Name.ext_of (hsame v hv) rfl
  refine readAllFrom_eq_ok_iff.mpr ⟨ws, hus, ?_⟩
  cases ws with
  | nil => exact absurd hfiles.symm hne
  | cons v vs =>
    have hothers : ∀ e ∈ vs.map canonical, e.origin = v.canonical.origin := by
      intro e he
      obtain ⟨x, hx, rfl⟩ := List.mem_map.mp he
      rw [horigin x (List.mem_cons_of_mem v hx), horigin v List.mem_cons_self]
    have hfirst : Declaration.mk v.canonical.origin
        (v.canonical.files ++ vs.flatMap (·.canonical.files)) = w.canonical := by
      rw [horigin v List.mem_cons_self]
      exact congrArg (Declaration.mk w.canonical.origin) hfiles
    rw [List.map_cons, List.foldl_cons, foldl_add_add zones v.canonical hothers, List.flatMap_map,
      hfirst]

theorem readAll_of_split {t : Text} {w : Declaration} (ht : Written t w) {us : List Text}
    {ws : List Declaration} (hus : List.Forall₂ Written us ws)
    (hsame : ∀ v ∈ ws, v.origin.Equals w.origin) (hfiles : ws.flatMap (·.files) = w.files)
    (before after : List Text) : readAll (before ++ us ++ after) = readAll (before ++ t :: after) := by
  unfold readAll
  rw [List.append_assoc, readAllFrom_append, readAllFrom_append]
  cases readAllFrom [] before with
  | error fault => rfl
  | ok zones =>
    dsimp only
    rw [readAllFrom_append, readAllFrom_of_split ht.files_nonempty.1 hus hsame hfiles, readAllFrom,
      ht.read]

/-- Only the files of each name and the order of the first declarations count. -/
theorem readAll_eq_of_declared {ts us : List Text} {ws vs : List Declaration}
    (hts : List.Forall₂ Written ts ws) (hus : List.Forall₂ Written us vs)
    (horigins : origins ws = origins vs) (hdeclared : ∀ o, declared o ws = declared o vs) :
    readAll ts = readAll us := by
  have hzones : (ws.map canonical).foldl add [] = (vs.map canonical).foldl add [] := by
    rw [(merged_foldl_add hts).eq, (merged_foldl_add hus).eq, horigins]
    simp only [hdeclared]
  have hreads : readAll us = .ok ((vs.map canonical).foldl add []) :=
    readAllFrom_eq_ok_iff.mpr ⟨vs, hus, rfl⟩
  rw [hreads]
  exact readAllFrom_eq_ok_iff.mpr ⟨ws, hts, hzones⟩

theorem written_files {name : Text} {n : Name} {files : List Path} (hcolon : ':' ∉ name)
    (hne : name ≠ []) (hname : Name.read name = .ok n) (hsome : files ≠ [])
    (hfiles : ∀ f ∈ files, f ≠ [] ∧ ',' ∉ f) :
    Written (name ++ ':' :: (datasetType ++ ':' :: Text.join [','] files)) ⟨n, files⟩ := by
  have hall : files.filter (!·.isEmpty) = files := by
    rw [List.filter_eq_self]
    intro f hf
    simpa using (hfiles f hf).1
  have hwritten := @Written.mk name n files hcolon hne hname (fun f hf => (hfiles f hf).2)
    (by rwa [hall])
  rwa [hall] at hwritten

/-- The declarations of a list that is accepted merge without loss: the zones are those of the declared
names, in the order of their first declarations, each with the files of all declarations of its name and
no others. So a declaration can be split, in place or with declarations of other names in between, and
there may be colons in the names of files. -/
theorem readAll_merges :
    (∀ (ts : List Text) (zs : List Declaration),
      readAll ts = .ok zs ↔ ∃ ws, List.Forall₂ Written ts ws ∧ Merged ws zs) ∧
    (∀ (t : Text) (w : Declaration) (us : List Text) (ws : List Declaration), Written t w →
      List.Forall₂ Written us ws → (∀ v ∈ ws, v.origin.Equals w.origin) →
      ws.flatMap (·.files) = w.files →
      ∀ before after, readAll (before ++ us ++ after) = readAll (before ++ t :: after)) ∧
    (∀ (ts us : List Text) (ws vs : List Declaration), List.Forall₂ Written ts ws →
      List.Forall₂ Written us vs → origins ws = origins vs →
      (∀ o, declared o ws = declared o vs) → readAll ts = readAll us) ∧
    ∀ (name : Text) (n : Name) (files : List Path), ':' ∉ name → name ≠ [] →
      Name.read name = .ok n → files ≠ [] → (∀ f ∈ files, f ≠ [] ∧ ',' ∉ f) →
      readAll [name ++ ':' :: (datasetType ++ ':' :: Text.join [','] files)] =
        .ok [⟨n.lower.withRoot true, files⟩] := by
  refine ⟨fun _ _ => readAll_eq_ok_iff_merged, ?_, ?_, ?_⟩
  · intro t w us ws ht hus hsame hfiles before after
    exact readAll_of_split ht hus hsame hfiles before after
  · intro ts us ws vs hts hus horigins hdeclared
    exact readAll_eq_of_declared hts hus horigins hdeclared
  · intro name n files hcolon hne hname hsome hfiles
    refine readAllFrom_eq_ok_iff.mpr ⟨[⟨n, files⟩], ?_, rfl⟩
    exact .cons (written_files hcolon hne hname hsome hfiles) .nil

def sharedZones : List Declaration :=
  [⟨Snapshot.plainOrigin, ["a".toList, "b".toList, "d:e".toList, "a".toList]⟩,
    ⟨Snapshot.starOrigin, ["c".toList]⟩]

theorem readAll_merges_shared :
    (∃ ws, List.Forall₂ Written ["ex:ip4set:a,,b".toList, "*.ex:ip4set:c".toList,
      "E\\130.:ip4set:d:e,a".toList] ws ∧ Merged ws sharedZones) ∧
    readAll ["*.ex:ip4set:c".toList, "ex.:ip4set:a".toList, "ex.:ip4set:d:e".toList] =
      readAll ["*.ex:ip4set:c".toList, "ex.:ip4set:a,d:e".toList] := by
  obtain ⟨hmerges, hsplit, -, -⟩ := readAll_merges
  constructor
  · exact (hmerges _ sharedZones).mp rfl
  · have hex : ∀ files : List Path, files ≠ [] → (∀ f ∈ files, f ≠ [] ∧ ',' ∉ f) →
        Written ("ex.".toList ++ ':' :: (datasetType ++ ':' :: Text.join [','] files))
          ⟨Snapshot.plainOrigin, files⟩ :=
      fun files => @written_files "ex.".toList _ files (by decide) (by decide) rfl
    have hwhole := hex ["a".toList, "d:e".toList] (by decide) (by decide)
    have hparts := List.Forall₂.cons (hex ["a".toList] (by decide) (by decide))
      (.cons (hex ["d:e".toList] (by decide) (by decide)) .nil)
    exact hsplit _ _ _ _ hwhole hparts (by decide) rfl ["*.ex:ip4set:c".toList] []

end Declaration

end DnsBlocklist
