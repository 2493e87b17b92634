import DnsBlocklist.Proofs.Log.Lines
import Mathlib.Algebra.BigOperators.Ring.List
import Mathlib.Algebra.Ring.Nat

/-! What the query log leaves in its files when writes fail. A call that fails may leave the beginning of
its line in the buffer, and the next line comes right behind it; a closing that fails loses the end of what
was held back. Otherwise a file holds whole lines, whatever becomes of the flushes between. -/

namespace DnsBlocklist
set_option autoImplicit false

namespace LogCall

variable {H F : Type} [DecidableEq F] {object : H → Option F} {f : F}
  {settings : Option LogSettings} {opened : Option H}

theorem lines_append {calls : List (LogCall H)} (hcalls : ∀ c ∈ calls, c.isOpening = false)
    (rest : List (LogCall H)) : lines object f settings opened (calls ++ rest) =
      calls.flatMap (adds object f settings opened) ++ lines object f settings opened rest := by
  induction calls with
  | nil => rfl
  | cons c calls ih =>
    obtain ⟨hc, hothers⟩ := List.forall_mem_cons.mp hcalls
    rw [List.cons_append, lines, List.flatMap_cons, List.append_assoc, ← ih hothers]
    cases c with
    | start | rotate => cases hc
    | write | flush | outside => rfl

/-- Only a write can leave less than its line. -/
theorem Leaves.eq_adds_of_flush {c : LogCall H × Option WriteFault} {left : Bytes}
    (h : Leaves object f settings opened c left) (hc : c.2 ≠ none → c.1 = .flush) :
    left = c.1.adds object f settings opened := by
  obtain ⟨c, fault⟩ := c
  cases fault with
  | none => exact h.eq_adds
  | some why =>
    obtain rfl : c = .flush := hc nofun
    cases h with
    | nothing hnothing => exact hnothing.symm

end LogCall

namespace QueryLog

variable {σ H F : Type} [DecidableEq F]

/-- What a call comes to, with the fault it met; of a rotation that is the fault of closing the old file.
Between the calls others may do something to the machine. -/
inductive Attempts (files : AppendFiles (StateM σ) H) (others : σ → σ → Prop) :
    QueryLog H × σ → LogCall H × Option WriteFault → QueryLog H × σ → Prop where
  | rotate {log log' : QueryLog H} {s t : σ} {faults : RotationFaults} :
      (log.rotate files).run s = ((log', faults), t) →
      Attempts files others (log, s) (.rotate log'.opened, faults.flushing) (log', t)
  | write {log log' : QueryLog H} {s t : σ} {fault : Option WriteFault} (time : Nat)
      (client : IpAddress) (summary : Summary) (length : Nat) :
      (log.write files time client summary length).run s = ((log', fault), t) →
      Attempts files others (log, s) (.write time client summary length, fault) (log', t)
  | flush {log log' : QueryLog H} {s t : σ} {fault : Option WriteFault} :
      (log.flush files).run s = ((log', fault), t) →
      Attempts files others (log, s) (.flush, fault) (log', t)
  | outside {log : QueryLog H} {s t : σ} : others s t →
      Attempts files others (log, s) (.outside, none) (log, t)

/-- What a file gets from some calls, from what is held back before them to what is held back after them.
Every call leaves its part in call order. While one opening lasts, the file gets the beginning of that; it
has got all of it once the file is closed, unless closing it failed and lost the end. -/
inductive Gets (object : H → Option F) (f : F) (settings : Option LogSettings) :
    Option H → Bytes → List (LogCall H × Option WriteFault) → Bytes → Bytes → Prop where
  | during {opened : Option H} {held written kept : Bytes}
      {calls : List (LogCall H × Option WriteFault)} {parts : List Bytes} :
      (∀ c ∈ calls, c.1.isOpening = false) →
      List.Forall₂ (LogCall.Leaves object f settings opened) calls parts →
      held ++ parts.flatten = written ++ kept → Gets object f settings opened held calls written kept
  | closing {opened next : Option H} {held written lost more kept : Bytes}
      {calls rest : List (LogCall H × Option WriteFault)} {parts : List Bytes}
      {fault : Option WriteFault} : (∀ c ∈ calls, c.1.isOpening = false) →
      List.Forall₂ (LogCall.Leaves object f settings opened) calls parts →
      held ++ parts.flatten = written ++ lost → (fault = none → lost = []) →
      Gets object f settings next [] rest more kept →
      Gets object f settings opened held (calls ++ (.rotate next, fault) :: rest) (written ++ more) kept

section

variable {files : AppendFiles (StateM σ) H} {others : σ → σ → Prop} {object : H → Option F}
  {content : σ → F → Bytes} {f : F} {settings : Option LogSettings} {opened : Option H}
  {held held' first left written kept : Bytes} {c : LogCall H × Option WriteFault}
  {calls : List (LogCall H × Option WriteFault)}

namespace Gets

theorem nil (held : Bytes) : Gets object f settings opened held [] [] held :=
  .during nofun .nil (List.append_nil held)

theorem cons (hc : c.1.isOpening = false) (hleaves : LogCall.Leaves object f settings opened c left)
    (hsplit : held ++ left = first ++ held')
    (h : Gets object f settings opened held' calls written kept) :
    Gets object f settings opened held (c :: calls) (first ++ written) kept := by
  have hparts (parts : List Bytes) {passed rest : Bytes}
      (hrest : held' ++ parts.flatten = passed ++ rest) :
      held ++ (left :: parts).flatten = first ++ passed ++ rest := by
    rw [List.flatten_cons, ← List.append_assoc, hsplit, List.append_assoc, hrest,
      List.append_assoc]
  cases h with
  | during hcalls hall hrest =>
    exact .during (List.forall_mem_cons.mpr ⟨hc, hcalls⟩) (.cons hleaves hall) (hparts _ hrest)
  | closing hcalls hall hrest hlost hmore =>
    have hclosing := Gets.closing (List.forall_mem_cons.mpr ⟨hc, hcalls⟩) (.cons hleaves hall)
      (hparts _ hrest) hlost hmore
    rwa [List.append_assoc] at hclosing

/-- Where only flushes fail, every line is there, or is still held back. -/
theorem eq_lines (h : Gets object f settings opened held calls written kept)
    (hfaults : ∀ c ∈ calls, c.2 ≠ none → c.1 = .flush) :
    written ++ kept = held ++ LogCall.lines object f settings opened (calls.map Prod.fst) := by
  have hparts {opened : Option H} {calls : List (LogCall H × Option WriteFault)}
      {parts : List Bytes} (hall : List.Forall₂ (LogCall.Leaves object f settings opened) calls parts)
      (hfaults : ∀ c ∈ calls, c.2 ≠ none → c.1 = .flush) :
      parts.flatten = (calls.map Prod.fst).flatMap (LogCall.adds object f settings opened) := by
    induction hall with
    | nil => rfl
    | cons hleaves _ ih =>
      obtain ⟨hc, hcalls⟩ := List.forall_mem_cons.mp hfaults
      rw [List.flatten_cons, hleaves.eq_adds_of_flush hc, ih hcalls, List.map_cons,
        List.flatMap_cons]
  induction h with
  | during hcalls hall hsplit =>
    rw [LogCall.lines_of_not_isOpening (List.forall_mem_map.mpr hcalls), ← hparts hall hfaults, hsplit]
  | @closing opened next held written lost more kept calls rest parts fault hcalls hall hsplit hlost _
      ih =>
    obtain ⟨hbefore, hafter⟩ := List.forall_mem_append.mp hfaults
    obtain ⟨hclose, hrest⟩ := List.forall_mem_cons.mp hafter
    have hnone : fault = none := by
      by_contra hfault
      cases hclose hfault
    rw [hlost hnone, List.append_nil, hparts hall hbefore] at hsplit
    rw [List.append_assoc, ih hrest, List.nil_append, ← hsplit, List.map_append, List.map_cons,
      LogCall.lines_append (List.forall_mem_map.mpr hcalls), LogCall.lines,
      LogCall.adds_of_line (fun _ => rfl), List.nil_append, List.append_assoc]
    rfl

end Gets

variable {log log' : QueryLog H} {s t : σ} {p q : QueryLog H × σ}

/-- A call that opens nothing only puts what it leaves behind what is held back. -/
theorem Attempts.passes (hfiles : files.Keeps object content)
    (hothers : ∀ s t, others s t → content t f = content s f)
    (h : Attempts files others (log, s) c (log', t)) (hopening : c.1.isOpening = false) :
    log'.settings = log.settings ∧ log'.opened = log.opened ∧
    ∃ left, LogCall.Leaves object f log.settings log.opened c left ∧
      log.Passes object content f s left log' t := by
  cases h with
  | write time client summary length hrun =>
    obtain ⟨hsettings, hopened, -, hleaves⟩ := leaves_of_write hfiles hrun
    exact ⟨hsettings, hopened, hleaves f⟩
  | flush hrun =>
    obtain ⟨hsettings, hopened⟩ := same_of_flush hrun
    exact ⟨hsettings, hopened, [], .nothing (LogCall.adds_of_line (fun _ => rfl) ..),
      (passes_of_flush hfiles hrun).2 f⟩
  | outside houtside =>
    refine ⟨rfl, rfl, [], .nothing (LogCall.adds_of_line (fun _ => rfl) ..), [],
      List.append_nil _, ?_⟩
    rw [hothers s t houtside, List.append_nil]
  | rotate => cases hopening

/-- A rotation loses the end of what is held back, if it fails to write it out, and holds nothing back
itself. -/
theorem closes_of_rotate (hfiles : files.Keeps object content) {faults : RotationFaults}
    (hclosed : log.settings = none → log.writer = none)
    (hrun : (log.rotate files).run s = ((log', faults), t)) (f : F) :
    log'.unwritten object f = [] ∧
    ∃ written lost, log.unwritten object f = written ++ lost ∧
      content t f = content s f ++ written ∧ (faults.flushing = none → lost = []) := by
  obtain ⟨-, hsame, hopens⟩ := rotate_closes hfiles hrun
  match hsettings : log.settings with
  | none =>
    obtain ⟨rfl, rfl⟩ := hsame hsettings
    have hempty : log'.unwritten object f = [] :=
      unwritten_of_empty (by simp [hclosed hsettings]) f
    exact ⟨hempty, [], [], hempty, (List.append_nil _).symm, fun _ => rfl⟩
  | some inForce =>
    obtain ⟨u, answer, hclose, hopen, hwriter⟩ := hopens inForce hsettings
    obtain ⟨written, lost, hsplit, hwritten, hlost⟩ := hclose f
    have hkept := hfiles.openFile inForce.path u f
    rw [hopen] at hkept
    refine ⟨unwritten_of_empty ?_ f, written, lost, hsplit, hkept.trans hwritten, hlost⟩
    rw [hwriter]
    cases answer with
    | error why => exact nofun
    | ok handle =>
      rintro w ⟨⟩
      rfl

/-- A log without settings has nothing open, whatever fails. -/
theorem Attempts.closed (hfiles : files.Keeps object content) (h : Attempts files others p c q)
    (hclosed : p.1.settings = none → p.1.writer = none) :
    q.1.settings = none → q.1.writer = none := by
  have hkept {log log' : QueryLog H} (hsettings : log'.settings = log.settings)
      (hopened : log'.opened = log.opened) (hclosed : log.settings = none → log.writer = none)
      (hnone : log'.settings = none) : log'.writer = none := by
    rw [opened, opened, hclosed (hsettings ▸ hnone)] at hopened
    simpa using hopened
  cases h with
  | rotate hrun =>
    obtain ⟨hsettings, hsame, -⟩ := rotate_closes hfiles hrun
    intro hnone
    obtain ⟨rfl, -⟩ := hsame (hsettings ▸ hnone)
    exact hclosed hnone
  | write _ _ _ _ hrun =>
    obtain ⟨hsettings, hopened, -⟩ := leaves_of_write hfiles hrun
    exact hkept hsettings hopened hclosed
  | flush hrun =>
    obtain ⟨hsettings, hopened⟩ := same_of_flush hrun
    exact hkept hsettings hopened hclosed
  | outside => exact hclosed

theorem gets_of_trace (hfiles : files.Keeps object content)
    (hothers : ∀ s t, others s t → content t f = content s f)
    (hclosed : p.1.settings = none → p.1.writer = none)
    (hrun : Trace (Attempts files others) p calls q) :
    ∃ written, content q.2 f = content p.2 f ++ written ∧
      Gets object f p.1.settings p.1.opened (p.1.unwritten object f) calls written
        (q.1.unwritten object f) := by
  induction hrun with
  | nil p => exact ⟨[], (List.append_nil _).symm, .nil _⟩
  | @cons p r q c calls hcall _ ih =>
    obtain ⟨written, hcontent, hgets⟩ := ih (hcall.closed hfiles hclosed)
    cases hopening : c.1.isOpening with
    | false =>
      obtain ⟨hsettings, hopened, left, hleaves, first, hsplit, hfirst⟩ :=
        hcall.passes hfiles hothers hopening
      rw [hsettings, hopened] at hgets
      exact ⟨first ++ written, by rw [hcontent, hfirst, List.append_assoc],
        hgets.cons hopening hleaves hsplit⟩
    | true =>
      cases hcall with
      | write | flush | outside => cases hopening
      | @rotate log log' s t faults hrotate =>
        obtain ⟨hsettings, -⟩ := rotate_closes hfiles hrotate
        obtain ⟨hempty, first, lost, hsplit, hfirst, hlost⟩ :=
          closes_of_rotate hfiles hclosed hrotate f
        simp only at hcontent hgets
        rw [hempty, hsettings] at hgets
        refine ⟨first ++ written, by rw [hcontent, hfirst, List.append_assoc], ?_⟩
        -- No call comes before the rotation in its opening; `Gets.cons` adds those.
        change Gets object f log.settings log.opened (log.unwritten object f)
          ([] ++ (.rotate log'.opened, faults.flushing) :: calls) (first ++ written) _
        exact .closing nofun .nil ((List.append_nil _).trans hsplit) hlost hgets

/-- Any calls on a log that starts with no file open, whatever of them fails. A file that nobody else
writes gets a part for every call that found it open, in call order: the whole line, or when the call
failed the pieces before the one that failed, which then stand right in front of the next line. All of it is
in the file once nothing is held back, as after a flush or a rotation that does not fail, except for what a
closing that failed has lost. Where no write and no closing fails the file holds whole lines, all of
them. -/
theorem contents_of_attempts (hfiles : files.Keeps object content)
    (hothers : ∀ s t, others s t → content t f = content s f) {log₀ : QueryLog H} {s₀ : σ}
    (hclosed : log₀.writer = none) (hrun : Trace (Attempts files others) (log₀, s₀) calls (log, s)) :
    (∃ written, content s f = content s₀ f ++ written ∧
      Gets object f log₀.settings none [] calls written (log.unwritten object f)) ∧
    (∀ c ∈ calls.getLast?, c.1.isOpening = true ∨ c = (.flush, none) →
      log.unwritten object f = []) ∧
    ((∀ c ∈ calls, c.2 ≠ none → c.1 = .flush) → log.unwritten object f = [] →
      content s f = content s₀ f ++
        LogCall.lines object f log₀.settings none (calls.map Prod.fst)) := by
  have hopened : log₀.opened = none := by rw [QueryLog.opened, hclosed, Option.map_none]
  have hempty : log₀.unwritten object f = [] := unwritten_of_empty (by simp [hclosed]) f
  obtain ⟨written, hcontent, hgets⟩ := gets_of_trace hfiles hothers (fun _ => hclosed) hrun
  simp only at hcontent hgets
  rw [hopened, hempty] at hgets
  refine ⟨⟨written, hcontent, hgets⟩, fun c hc hout => ?_, fun hfaults hnone => ?_⟩
  · obtain ⟨front, rfl⟩ := List.getLast?_eq_some_iff.mp hc
    obtain ⟨r, r', hfront, hcall, hend⟩ := hrun.exists_step
    cases hend
    have hclosed' := hfront.invariant (P := fun p => p.1.settings = none → p.1.writer = none)
      (fun hcall => hcall.closed hfiles) (fun _ => hclosed)
    cases hcall with
    | rotate hrotate => exact (closes_of_rotate hfiles hclosed' hrotate f).1
    | flush hflush =>
      rcases hout with hopening | hflushed
      · cases hopening
      · cases hflushed
        exact unwritten_of_empty ((passes_of_flush hfiles hflush).1 rfl) f
    | write | outside =>
      rcases hout with hopening | hflushed
      · cases hopening
      · cases hflushed
  · have hlines := hgets.eq_lines hfaults
    rw [hnone, List.append_nil, List.nil_append] at hlines
    rw [hcontent, hlines]

end

end QueryLog

namespace Writer

variable {σ H : Type} {files : AppendFiles (StateM σ) H} {w : Writer H} {s : σ}

theorem putAll_append {v : Writer H} {t : σ} {pieces : List Bytes} (more : List Bytes)
    (hrun : (w.putAll files pieces).run s = ((v, none), t)) :
    (w.putAll files (pieces ++ more)).run s = (v.putAll files more).run t := by
  induction pieces generalizing w s with
  | nil =>
    cases hrun
    rfl
  | cons piece pieces ih =>
    rcases hput : (w.put files piece).run s with ⟨⟨u, fault⟩, r⟩
    rw [putAll, run_bind hput] at hrun
    rw [List.cons_append, putAll, run_bind hput]
    cases fault with
    | some why => cases hrun
    | none => exact ih hrun

theorem putAll_of_fits {handle : H} {pending : Bytes} {pieces : List Bytes} (s : σ)
    (hfits : pending.length + pieces.flatten.length < capacity) :
    (putAll files ⟨handle, pending⟩ pieces).run s =
      ((⟨handle, pending ++ pieces.flatten⟩, none), s) := by
  induction pieces generalizing pending with
  | nil =>
    rw [List.flatten_nil, List.append_nil]
    rfl
  | cons piece pieces ih =>
    rw [List.flatten_cons, List.length_append] at hfits
    have hroom : pending.length + piece.length ≤ capacity ∧ piece.length < capacity := by omega
    have hput : (put files ⟨handle, pending⟩ piece).run s =
        ((⟨handle, pending ++ piece⟩, none), s) := by
      rw [put, if_pos hroom]
      rfl
    rw [putAll, run_bind hput, List.flatten_cons, ← List.append_assoc]
    apply ih
    rw [List.length_append]
    omega

end Writer

/-- A disk with one file, which takes nothing while it is full. -/
structure Volume where
  full : Bool
  bytes : Bytes

namespace Volume

def files : AppendFiles (StateM Volume) Unit where
  openFile _ := pure (.ok ())
  append _ bytes := fun v =>
    if v.full then (.error .noSpace, v) else (.ok bytes.length, { v with bytes := v.bytes ++ bytes })

theorem files_keeps : files.Keeps (fun _ => some ()) (fun v _ => v.bytes) where
  openFile _ _ _ := rfl
  append _ bytes v _ := by
    obtain ⟨full, held⟩ := v
    cases full with
    | true => exact (List.append_nil held).symm
    | false => exact (congrArg (held ++ ·) List.take_length).symm

theorem flush_free (pending held : Bytes) : (Writer.flush files ⟨(), pending⟩).run ⟨false, held⟩ =
    ((⟨(), []⟩, none), ⟨false, held ++ pending⟩) := by
  have hout : (Writer.writeOut files () .stalledFlush pending).run ⟨false, held⟩ =
      (([], none), ⟨false, held ++ pending⟩) := by
    cases pending with
    | nil =>
      rw [Writer.writeOut, List.append_nil]
      rfl
    | cons b rest =>
      have happend : (files.append () (b :: rest)).run ⟨false, held⟩ =
        (.ok (rest.length + 1), ⟨false, held ++ b :: rest⟩) := rfl
      rw [Writer.writeOut, run_bind happend]
      simp only [List.drop_length, Writer.writeOut]
      rfl
  rw [Writer.flush, run_bind hout]
  rfl

/-- On a full disk the beginning of a line that does not fit any more stays in the buffer. -/
theorem putAll_full {before after : List Bytes} {piece pending : Bytes} (held : Bytes)
    (hfits : pending.length + before.flatten.length < Writer.capacity)
    (hover : Writer.capacity < pending.length + before.flatten.length + piece.length)
    (hpiece : piece.length < Writer.capacity) :
    (Writer.putAll files ⟨(), pending⟩ (before ++ piece :: after)).run ⟨true, held⟩ =
      ((⟨(), pending ++ before.flatten⟩, some (.os .noSpace)), ⟨true, held⟩) := by
  rw [Writer.putAll_append _ (Writer.putAll_of_fits _ hfits), Writer.putAll]
  have hlength : (pending ++ before.flatten).length = pending.length + before.flatten.length :=
    List.length_append
  have hne : pending ++ before.flatten ≠ [] := List.ne_nil_of_length_pos (by omega)
  obtain ⟨b, rest, hkept⟩ := List.exists_cons_of_ne_nil hne
  have hflush : (Writer.flush files ⟨(), pending ++ before.flatten⟩).run ⟨true, held⟩ =
      ((⟨(), pending ++ before.flatten⟩, some (.os .noSpace)), ⟨true, held⟩) := by
    rw [hkept, Writer.flush, Writer.writeOut]
    rfl
  have hroom : ¬ (pending ++ before.flatten).length + piece.length ≤ Writer.capacity := by omega
  have hput : (Writer.put files ⟨(), pending ++ before.flatten⟩ piece).run ⟨true, held⟩ =
      ((⟨(), pending ++ before.flatten⟩, some (.os .noSpace)), ⟨true, held⟩) := by
    rw [Writer.put, if_neg (fun h => hroom h.1), if_neg hroom, run_bind hflush]
    rfl
  rw [run_bind hput]
  rfl

/-- What others do to the disk around the file. -/
def Aside (v w : Volume) : Prop := w.bytes = v.bytes

end Volume

namespace QueryLog

/-- A line that is written again and again, in its pieces. -/
def repeatedPieces : List Bytes :=
  (linePieces 1750000000 (.v4 .localhost) oneAnswer 35).map Utf8.encode

def repeatedLine : Bytes := repeatedPieces.flatten

/-- Its time and client, with a blank behind each. -/
def tornLine : Bytes := (repeatedPieces.take 10).flatten

theorem repeatedPieces_eq : repeatedPieces =
    repeatedPieces.take 10 ++ Utf8.encode ['a', '.'] :: repeatedPieces.drop 11 := by decide +kernel

theorem length_repeatedLine : repeatedLine.length = 43 := by decide +kernel

theorem length_tornLine : tornLine.length = 21 := by decide +kernel

theorem length_repeatedLines (n : Nat) :
    (List.replicate n repeatedLine).flatten.length = n * 43 := by
  rw [List.length_flatten, List.map_replicate, List.sum_replicate_nat, length_repeatedLine]

def repeated : LogCall Unit := .write 1750000000 (.v4 .localhost) oneAnswer 35

/-- A log on a volume with these bytes in its buffer. -/
def onVolume (pending : Bytes) : QueryLog Unit := ⟨some plain, some ⟨(), pending⟩⟩

theorem attempts_repeated {pending : Bytes} {v w : Volume} {writer : Writer Unit}
    {fault : Option WriteFault}
    (hput : (Writer.putAll Volume.files ⟨(), pending⟩ repeatedPieces).run v = ((writer, fault), w)) :
    Attempts Volume.files Volume.Aside (onVolume pending, v) (repeated, fault)
      (⟨some plain, some writer⟩, w) := by
  apply Attempts.write
  have hline : (writeLine Volume.files plain ⟨(), pending⟩
      (linePieces 1750000000 (.v4 .localhost) oneAnswer 35)).run v = ((writer, fault), w) := by
    rw [repeatedPieces] at hput
    rw [writeLine, run_bind hput]
    cases fault <;> rfl
  have hallows : Netlist.allows plain.filter (.v4 .localhost) = true := rfl
  simp only [onVolume, write]
  rw [if_pos hallows, run_bind hline]
  rfl

theorem attempts_flush (pending held : Bytes) : Attempts Volume.files Volume.Aside
    (onVolume pending, ⟨false, held⟩) (.flush, none) (onVolume [], ⟨false, held ++ pending⟩) := by
  apply Attempts.flush
  simp only [onVolume, flush]
  rw [run_bind (Volume.flush_free pending held)]
  rfl

theorem attempts_of_fits {pending : Bytes} (v : Volume)
    (hfits : pending.length + 43 < Writer.capacity) : Attempts Volume.files Volume.Aside
      (onVolume pending, v) (repeated, none) (onVolume (pending ++ repeatedLine), v) := by
  rw [← length_repeatedLine, repeatedLine] at hfits
  exact attempts_repeated (Writer.putAll_of_fits v hfits)

theorem attempts_overfull {pending : Bytes} (held : Bytes) (hpending : pending.length = 190 * 43) :
    Attempts Volume.files Volume.Aside (onVolume pending, ⟨true, held⟩)
      (repeated, some (.os .noSpace)) (onVolume (pending ++ tornLine), ⟨true, held⟩) := by
  -- 190 lines take 8170 bytes of the buffer and time and client 21 more; the name is two bytes long.
  have htorn := length_tornLine
  have hcapacity : Writer.capacity = 8192 := rfl
  have hname : (Utf8.encode ['a', '.']).length = 2 := rfl
  rw [tornLine] at htorn
  have hfull : (Writer.putAll Volume.files ⟨(), pending⟩ repeatedPieces).run ⟨true, held⟩ =
      ((⟨(), pending ++ tornLine⟩, some (.os .noSpace)), ⟨true, held⟩) := by
    rw [repeatedPieces_eq]
    exact Volume.putAll_full held (by omega) (by omega) (by omega)
  exact attempts_repeated hfull

theorem trace_repeated {n : Nat} {pending : Bytes} (v : Volume)
    (hfits : pending.length + n * 43 < Writer.capacity) :
    Trace (Attempts Volume.files Volume.Aside) (onVolume pending, v)
      (List.replicate n (repeated, none))
      (onVolume (pending ++ (List.replicate n repeatedLine).flatten), v) := by
  induction n generalizing pending with
  | zero =>
    rw [List.replicate_zero, List.replicate_zero, List.flatten_nil, List.append_nil]
    exact .nil _
  | succ n ih =>
    rw [List.replicate_succ, List.replicate_succ, List.flatten_cons, ← List.append_assoc]
    refine .cons (attempts_of_fits v (by omega)) (ih ?_)
    rw [List.length_append, length_repeatedLine]
    omega

/-- The same query over and over again until the disk is found full. Then others make room, and it is
logged once more. -/
def overfull : List (LogCall Unit × Option WriteFault) :=
  (.rotate (some ()), none) :: (List.replicate 190 (repeated, none) ++
    [(repeated, some (.os .noSpace)), (.outside, none), (.flush, none), (repeated, none),
      (.flush, none)])

/-- What the file holds in the end: every line that fitted, the beginning of the one that did not, and
right behind it the last one. -/
def overfullBytes : Bytes :=
  (List.replicate 190 repeatedLine).flatten ++ tornLine ++ repeatedLine

theorem length_overfullBytes : overfullBytes.length = 191 * 43 + 21 := by
  have hlines := length_repeatedLines 190
  rw [overfullBytes]
  generalize (List.replicate 190 repeatedLine).flatten = kept at hlines
  rw [List.length_append, List.length_append, hlines, length_tornLine, length_repeatedLine]

theorem trace_overfull : Trace (Attempts Volume.files Volume.Aside) (⟨some plain, none⟩, ⟨true, []⟩)
    overfull (onVolume [], ⟨false, overfullBytes⟩) := by
  have hopen : (rotate Volume.files ⟨some plain, none⟩).run ⟨true, []⟩ =
      ((onVolume [], ⟨none, none⟩), ⟨true, []⟩) := rfl
  have hlines := @trace_repeated 190 [] ⟨true, []⟩ (by decide)
  have hlength := length_repeatedLines 190
  refine .cons (.rotate hopen) (hlines.append ?_)
  rw [overfullBytes, List.nil_append]
  generalize (List.replicate 190 repeatedLine).flatten = kept at hlength
  have hroom : Attempts Volume.files Volume.Aside (onVolume (kept ++ tornLine), ⟨true, []⟩)
    (.outside, none) (onVolume (kept ++ tornLine), ⟨false, []⟩) := .outside rfl
  have hflush := attempts_flush (kept ++ tornLine) []
  have hlast := @attempts_of_fits [] ⟨false, kept ++ tornLine⟩ (by decide)
  rw [List.nil_append] at hflush hlast
  exact .cons (attempts_overfull [] hlength) <| .cons hroom <| .cons hflush <| .cons hlast <|
    .single (attempts_flush repeatedLine (kept ++ tornLine))

theorem adds_repeated :
    repeated.adds (fun _ => some ()) () (some plain) (some ()) = repeatedLine := by
  rw [repeatedLine, repeatedPieces, Utf8.encode_flatten]
  rfl

theorem dvd_length_adds {c : LogCall Unit} (hc : c ∈ overfull.map Prod.fst) :
    43 ∣ (c.adds (fun _ => some ()) () (some plain) (some ())).length := by
  have hcases : c = repeated ∨ c = .rotate (some ()) ∨ c = .outside ∨ c = .flush := by
    simp only [overfull, List.map_cons, List.map_append, List.map_replicate, List.mem_cons,
      List.mem_append, List.mem_replicate, List.map_nil, List.not_mem_nil] at hc
    tauto
  rcases hcases with rfl | rfl | rfl | rfl
  · rw [adds_repeated, length_repeatedLine]
  · exact Nat.dvd_zero 43
  · exact Nat.dvd_zero 43
  · exact Nat.dvd_zero 43

/-- Nothing is held back in the end, but the file is no sequence of the lines of these calls. -/
theorem overfull_not_lines :
    Trace (Attempts Volume.files Volume.Aside) (⟨some plain, none⟩, ⟨true, []⟩)
      overfull (onVolume [], ⟨false, overfullBytes⟩) ∧
    (onVolume []).unwritten (fun _ => some ()) () = [] ∧
    ∀ calls : List (LogCall Unit), calls.Sublist (overfull.map Prod.fst) →
      overfullBytes ≠ calls.flatMap (LogCall.adds (fun _ => some ()) () (some plain) (some ())) := by
  refine ⟨trace_overfull, rfl, fun calls hcalls hbytes => ?_⟩
  have hdvd : 43 ∣ overfullBytes.length := by
    rw [hbytes, List.length_flatMap]
    exact List.dvd_sum (List.forall_mem_map.mpr fun c hc => dvd_length_adds (hcalls.mem hc))
  rw [length_overfullBytes] at hdvd
  omega

/-- What this file gets is a part for every call. -/
theorem contents_of_attempts_overfull : ∃ written, overfullBytes = [] ++ written ∧
    Gets (fun _ => some ()) () (some plain) none [] overfull written [] := by
  obtain ⟨hgets, -⟩ := contents_of_attempts Volume.files_keeps (fun _ _ h => h) rfl trace_overfull
  exact hgets

end QueryLog

end DnsBlocklist
