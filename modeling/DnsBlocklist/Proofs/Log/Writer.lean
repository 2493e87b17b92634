import DnsBlocklist.Disk
import DnsBlocklist.Log.Writer
import DnsBlocklist.Proofs.Trace

/-! Where the bytes on their way to a file end up. A writer keeps their order: what it has passed on
and what it still holds are together what it was given, wherever the buffer was cut. -/

namespace DnsBlocklist
set_option autoImplicit false

section

variable {σ H F : Type} [DecidableEq F]

/-- One file grows by some bytes, if there is one, and every other file keeps what it holds. -/
def Grows (content : σ → F → Bytes) (s : σ) (file : Option F) (bytes : Bytes) (t : σ) : Prop :=
  ∀ f, content t f = content s f ++ if file = some f then bytes else []

namespace Grows

variable {content : σ → F → Bytes} {s t u : σ} {file : Option F} {bytes more : Bytes}

theorem refl (content : σ → F → Bytes) (s : σ) (file : Option F) : Grows content s file [] s := by
  intro f
  simp

theorem trans (hst : Grows content s file bytes t) (htu : Grows content t file more u) :
    Grows content s file (bytes ++ more) u := by
  intro f
  rw [htu f, hst f, List.append_assoc]
  split
  · rfl
  · simp

end Grows

/-- How many bytes an answer says were taken. -/
def AppendFiles.taken : Except OsError Nat → Nat
  | .ok n => n
  | .error _ => 0

/-- Files that can only be appended to do not change when they are opened, and what is appended goes
to the end of the file that was opened. A handle may stand for no file. -/
structure AppendFiles.Keeps (files : AppendFiles (StateM σ) H) (object : H → Option F)
    (content : σ → F → Bytes) : Prop where
  openFile : ∀ path s f, content ((files.openFile path).run s).2 f = content s f
  append : ∀ handle bytes s, Grows content s (object handle)
    (bytes.take (AppendFiles.taken ((files.append handle bytes).run s).1))
    ((files.append handle bytes).run s).2

end

namespace Writer

variable {σ H F : Type} [DecidableEq F] {files : AppendFiles (StateM σ) H}
  {object : H → Option F} {content : σ → F → Bytes}

/-- Whatever is not left has been written. -/
theorem grows_of_writeOut (hfiles : files.Keeps object content) {handle : H} {stalled : WriteFault}
    {bytes left : Bytes} {fault : Option WriteFault} {s t : σ}
    (hrun : (writeOut files handle stalled bytes).run s = ((left, fault), t)) :
    ∃ written, bytes = written ++ left ∧ Grows content s (object handle) written t ∧
      (fault = none → left = []) := by
  -- The induction follows the calls: each one is shorter by what the last append has taken.
  induction bytes using writeOut.induct generalizing s with
  | case1 =>
    rw [writeOut] at hrun
    cases hrun
    exact ⟨[], rfl, .refl content _ _, fun _ => rfl⟩
  | case2 b rest ih =>
    have happend := hfiles.append handle (b :: rest) s
    rcases hanswer : (files.append handle (b :: rest)).run s with ⟨answer, s'⟩
    rw [hanswer] at happend
    rw [writeOut, run_bind hanswer] at hrun
    match answer with
    | .error why =>
      cases hrun
      exact ⟨[], rfl, happend, nofun⟩
    | .ok 0 =>
      cases hrun
      exact ⟨[], rfl, happend, nofun⟩
    | .ok (taken + 1) =>
      obtain ⟨written, hsplit, hgrows, hleft⟩ := ih taken hrun
      refine ⟨b :: rest.take taken ++ written, ?_, happend.trans hgrows, hleft⟩
      rw [List.append_assoc, ← hsplit, List.cons_append, List.take_append_drop]

/-- A writer that was given some bytes has written some of those it held and was given, in their order,
and holds the others. -/
def Passes (object : H → Option F) (content : σ → F → Bytes) (w : Writer H) (s : σ)
    (given : Bytes) (w' : Writer H) (t : σ) : Prop :=
  w'.handle = w.handle ∧ ∃ written, w.pending ++ given = written ++ w'.pending ∧
    Grows content s (object w.handle) written t

namespace Passes

variable {v w x : Writer H} {s t u : σ} {given more : Bytes}

/-- Bytes that fit are only put behind those in the buffer. -/
theorem kept (w : Writer H) (s : σ) (bytes : Bytes) :
    Passes object content w s bytes { w with pending := w.pending ++ bytes } s :=
  ⟨rfl, [], rfl, .refl content s _⟩

theorem refl (w : Writer H) (s : σ) : Passes object content w s [] w s :=
  ⟨rfl, [], List.append_nil _, .refl content s _⟩

theorem trans (hvw : Passes object content v s given w t)
    (hwx : Passes object content w t more x u) :
    Passes object content v s (given ++ more) x u := by
  obtain ⟨hhandle, written, hsplit, hgrows⟩ := hvw
  obtain ⟨hhandle', written', hsplit', hgrows'⟩ := hwx
  rw [hhandle] at hgrows'
  refine ⟨hhandle'.trans hhandle, written ++ written', ?_, hgrows.trans hgrows'⟩
  rw [← List.append_assoc, hsplit, List.append_assoc, hsplit', List.append_assoc]

/-- The same with a view to one file. -/
theorem account (h : Passes object content w s given x t) (f : F) :
    ∃ written, (if object w.handle = some f then w.pending else []) ++
        (if object w.handle = some f then given else []) =
      written ++ (if object x.handle = some f then x.pending else []) ∧
      content t f = content s f ++ written := by
  obtain ⟨hhandle, written, hsplit, hgrows⟩ := h
  rw [hhandle]
  refine ⟨_, ?_, hgrows f⟩
  split
  · exact hsplit
  · rfl

end Passes

theorem handle_of_flush {w w' : Writer H} {s t : σ} {fault : Option WriteFault}
    (hrun : (w.flush files).run s = ((w', fault), t)) : w'.handle = w.handle := by
  rcases hout : (writeOut files w.handle .stalledFlush w.pending).run s with ⟨⟨left, fault'⟩, s'⟩
  rw [flush, run_bind hout] at hrun
  cases hrun
  rfl

theorem passes_of_flush (hfiles : files.Keeps object content) {w w' : Writer H} {s t : σ}
    {fault : Option WriteFault} (hrun : (w.flush files).run s = ((w', fault), t)) :
    Passes object content w s [] w' t ∧ (fault = none → w'.pending = []) := by
  rcases hout : (writeOut files w.handle .stalledFlush w.pending).run s with ⟨⟨left, fault'⟩, s'⟩
  rw [flush, run_bind hout] at hrun
  cases hrun
  obtain ⟨written, hsplit, hgrows, hleft⟩ := grows_of_writeOut hfiles hout
  exact ⟨⟨rfl, written, by rw [List.append_nil, hsplit], hgrows⟩, hleft⟩

/-- What is taken of some bytes that are put: all of them if nothing fails, and none of those that the
buffer would have had to hold. -/
structure Takes (bytes : Bytes) (fault : Option WriteFault) (taken : Bytes) : Prop where
  starts : taken <+: bytes
  all : fault = none → taken = bytes
  held : fault ≠ none → bytes.length < capacity → taken = []

theorem Takes.whole (bytes : Bytes) : Takes bytes none bytes :=
  ⟨List.prefix_rfl, fun _ => rfl, fun h => absurd rfl h⟩

/-- Behind an empty buffer bytes may go straight to the file. -/
theorem takes_of_direct (hfiles : files.Keeps object content) {w w' : Writer H} {s t : σ}
    {bytes : Bytes} {fault : Option WriteFault} (hempty : w.pending = [])
    (hrun : (if bytes.length < capacity then pure ({ w with pending := w.pending ++ bytes }, none)
      else do
        let (_, fault) ← writeOut files w.handle .stalledWrite bytes
        return (w, fault) : StateM σ (Writer H × Option WriteFault)).run s = ((w', fault), t)) :
    ∃ taken, Takes bytes fault taken ∧ Passes object content w s taken w' t := by
  split at hrun
  · cases hrun
    exact ⟨bytes, .whole bytes, .kept w s bytes⟩
  · next hlong =>
    rcases hout : (writeOut files w.handle .stalledWrite bytes).run s with ⟨⟨left, fault⟩, u⟩
    rw [run_bind hout] at hrun
    cases hrun
    obtain ⟨written, hsplit, hgrows, hleft⟩ := grows_of_writeOut hfiles hout
    refine ⟨written, ⟨⟨left, hsplit.symm⟩, ?_, fun _ hshort => absurd hshort hlong⟩, rfl, written, ?_,
      hgrows⟩
    · intro hnone
      rw [hsplit, hleft hnone, List.append_nil]
    · rw [hempty, List.append_nil, List.nil_append]

theorem takes_of_put (hfiles : files.Keeps object content) {w w' : Writer H} {s t : σ}
    {bytes : Bytes} {fault : Option WriteFault}
    (hrun : (w.put files bytes).run s = ((w', fault), t)) :
    ∃ taken, Takes bytes fault taken ∧ Passes object content w s taken w' t := by
  unfold put at hrun
  by_cases hfits : w.pending.length + bytes.length ≤ capacity ∧ bytes.length < capacity
  · rw [if_pos hfits] at hrun
    cases hrun
    exact ⟨bytes, .whole bytes, .kept w s bytes⟩
  rw [if_neg hfits] at hrun
  by_cases hroom : w.pending.length + bytes.length ≤ capacity
  · rw [if_pos hroom] at hrun
    have hempty : w.pending = [] := by
      apply List.eq_nil_of_length_eq_zero
      omega
    exact takes_of_direct hfiles hempty hrun
  · rw [if_neg hroom] at hrun
    rcases hflush : (w.flush files).run s with ⟨⟨v, fault'⟩, u⟩
    rw [run_bind hflush] at hrun
    obtain ⟨hpasses, hempty⟩ := passes_of_flush hfiles hflush
    cases fault' with
    | some why =>
      cases hrun
      exact ⟨[], ⟨List.nil_prefix, nofun, fun _ _ => rfl⟩, hpasses⟩
    | none =>
      obtain ⟨taken, htakes, hdirect⟩ := takes_of_direct hfiles (hempty rfl) hrun
      exact ⟨taken, htakes, hpasses.trans hdirect⟩

/-- What pieces leave behind that are put one after the other: all of them, or those before the one that
failed and what was taken of that one. -/
inductive Left : List Bytes → Option WriteFault → Bytes → Prop where
  | whole (pieces : List Bytes) : Left pieces none pieces.flatten
  | torn {pieces before after : List Bytes} {piece taken : Bytes} {why : WriteFault} :
      pieces = before ++ piece :: after → Takes piece (some why) taken →
      Left pieces (some why) (before.flatten ++ taken)

theorem Left.cons {pieces : List Bytes} {fault : Option WriteFault} {left : Bytes} (piece : Bytes)
    (h : Left pieces fault left) : Left (piece :: pieces) fault (piece ++ left) := by
  cases h with
  | whole => exact .whole (piece :: pieces)
  | @torn before after _ _ _ hpieces htakes =>
    rw [← List.append_assoc, ← List.flatten_cons]
    exact .torn (congrArg (piece :: ·) hpieces) htakes

theorem Left.eq_flatten {pieces : List Bytes} {left : Bytes} (h : Left pieces none left) :
    left = pieces.flatten := by
  cases h
  rfl

theorem left_of_putAll (hfiles : files.Keeps object content) {pieces : List Bytes}
    {w w' : Writer H} {s t : σ} {fault : Option WriteFault}
    (hrun : (w.putAll files pieces).run s = ((w', fault), t)) :
    ∃ left, Left pieces fault left ∧ Passes object content w s left w' t := by
  induction pieces generalizing w s with
  | nil =>
    rw [putAll] at hrun
    cases hrun
    exact ⟨[], .whole [], .refl _ _⟩
  | cons piece pieces ih =>
    rcases hput : (w.put files piece).run s with ⟨⟨v, fault'⟩, u⟩
    rw [putAll, run_bind hput] at hrun
    obtain ⟨taken, htakes, hpasses⟩ := takes_of_put hfiles hput
    cases fault' with
    | some why =>
      cases hrun
      have htorn : Left (piece :: pieces) _ (([] : List Bytes).flatten ++ taken) := .torn rfl htakes
      exact ⟨taken, htorn, hpasses⟩
    | none =>
      obtain ⟨left, hleft, hrest⟩ := ih hrun
      obtain rfl := htakes.all rfl
      exact ⟨taken ++ left, hleft.cons taken, hpasses.trans hrest⟩

end Writer

namespace Disk

/-- The file behind something that was opened; a device has none. -/
def Opened.number? : Opened → Option Nat
  | .file number => some number
  | .device _ => none

/-- What a file holds, under whatever name, or under none. -/
def content (d : Disk) (number : Nat) : Bytes := (d.files[number]?.map StoredFile.bytes).getD []

theorem content_modifyFile (d : Disk) (number : Nat) (g : StoredFile → StoredFile) (f : Nat) :
    (d.modifyFile number g).content f =
      if number = f then (d.files[f]?.map (StoredFile.bytes ∘ g)).getD [] else d.content f := by
  unfold content modifyFile
  rw [Array.getElem?_modify]
  split
  · rw [Option.map_map]
  · rfl

/-- A change that only concerns names leaves every file as it is. -/
theorem content_congr {d d' : Disk} (h : d'.files = d.files) : d'.content = d.content := by
  funext number
  rw [content, h, content]

/-- What others do to the names on a disk: with them a path leads elsewhere, nowhere, or somewhere
again. -/
inductive Rearranged (d : Disk) : Disk → Prop where
  | rename {d' : Disk} (source target : Path) : d.rename source target = .ok d' → Rearranged d d'
  | remove {d' : Disk} (path : Path) : d.remove path = .ok d' → Rearranged d d'
  | makeFolder {d' : Disk} (path : Path) : d.makeFolder path = .ok d' → Rearranged d d'

theorem content_of_rearranged {d d' : Disk} (h : d.Rearranged d') : d'.content = d.content := by
  apply content_congr
  cases h with
  | rename source target hrename =>
    simp only [Disk.rename, bind, Except.bind, pure, Except.pure] at hrename
    grind
  | remove path hremove =>
    simp only [Disk.remove, bind, Except.bind, pure, Except.pure] at hremove
    grind
  | makeFolder path hmake =>
    simp only [Disk.makeFolder, bind, Except.bind, pure, Except.pure] at hmake
    grind [Disk.setName]

theorem content_openFile (d : Disk) (path : Path) (f : Nat) :
    ((appendFiles.openFile path).run d).2.content f = d.content f := by
  change ((change (·.openFile path)).run d).2.content f = d.content f
  rcases hopen : d.openFile path with why | ⟨d', o⟩
  · have hrun : (change (·.openFile path)).run d = (.error why, d) := by
      simp only [change, StateT.run, hopen]
    rw [hrun]
  have hrun : (change (·.openFile path)).run d = (.ok o, d') := by
    simp only [change, StateT.run, hopen]
  rw [hrun]
  unfold openFile at hopen
  rcases hplace : d.placeOfFile path with why | place
  · rw [hplace] at hopen
    cases hopen
  rw [hplace] at hopen
  -- A file that is made has nothing in it, as a file that is not there has.
  match hnode : d.node? place with
  | some .folder =>
    simp only [bind, Except.bind, hnode] at hopen
    cases hopen
  | some (.file number) | some (.device full) =>
    simp only [bind, Except.bind, hnode] at hopen
    cases hopen
    rfl
  | none =>
    simp only [bind, Except.bind, hnode] at hopen
    cases hopen
    unfold content create
    rw [Array.getElem?_push]
    split
    · next h => simp [h]
    · rfl

theorem append_file {d : Disk} {number : Nat} (hfile : number < d.files.size) (bytes : Bytes) :
    (appendFiles.append (.file number) bytes).run d =
      (.ok bytes.length, d.modifyFile number fun f => ⟨f.bytes ++ bytes, d.now⟩) := by
  simp only [appendFiles, change, append, StateT.run, Array.getElem?_eq_getElem hfile]

theorem grows_of_append (o : Opened) (bytes : Bytes) (d : Disk) :
    Grows content d o.number? (bytes.take (AppendFiles.taken ((appendFiles.append o bytes).run d).1))
      ((appendFiles.append o bytes).run d).2 := by
  intro f
  match o with
  | .device true | .device false => simp [appendFiles, change, append, StateT.run, Opened.number?]
  | .file number =>
    cases hfile : d.files[number]? with
    | none =>
      have hrun : (appendFiles.append (.file number) bytes).run d = (.error .notFound, d) := by
        simp only [appendFiles, change, append, StateT.run, hfile]
      rw [hrun, AppendFiles.taken]
      simp
    | some old =>
      obtain ⟨hnumber, -⟩ := Array.getElem?_eq_some_iff.mp hfile
      have hrun := append_file hnumber bytes
      rw [hrun, AppendFiles.taken, List.take_length, Opened.number?, content_modifyFile]
      by_cases hsame : number = f
      · subst hsame
        simp [content, hfile]
      · simp [hsame]

/-- A file that is there takes everything. -/
theorem writeOut_file {d : Disk} {number : Nat} (hfile : number < d.files.size)
    (stalled : WriteFault) (bytes : Bytes) :
    ∃ d', (Writer.writeOut appendFiles (.file number) stalled bytes).run d = (([], none), d') := by
  match bytes with
  | [] => exact ⟨d, by rw [Writer.writeOut]; rfl⟩
  | b :: rest =>
    have hrun := append_file hfile (b :: rest)
    rw [Writer.writeOut, run_bind hrun]
    simp only [List.length_cons, List.drop_length, Writer.writeOut]
    exact ⟨_, rfl⟩

theorem flush_file {d : Disk} {number : Nat} (hfile : number < d.files.size) (pending : Bytes) :
    ∃ d', (Writer.flush appendFiles ⟨.file number, pending⟩).run d =
      ((⟨.file number, []⟩, none), d') := by
  obtain ⟨d', hout⟩ := writeOut_file hfile .stalledFlush pending
  refine ⟨d', ?_⟩
  rw [Writer.flush, run_bind hout]
  rfl

theorem appendFiles_keeps : appendFiles.Keeps Opened.number? content :=
  ⟨fun path d => content_openFile d path, grows_of_append⟩

end Disk

end DnsBlocklist
