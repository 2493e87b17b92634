import DnsBlocklist.Log.QueryLog
import DnsBlocklist.Proofs.Log.Writer

/-! What the query log leaves in its files, over any calls on it. A file holds what it held before and the
lines of the calls that found it open, in their order. Some at the end may still be in the buffer. -/

namespace DnsBlocklist
set_option autoImplicit false

theorem Utf8.encode_flatten (pieces : List Text) :
    (pieces.map encode).flatten = encode pieces.flatten := by
  induction pieces with
  | nil => rfl
  | cons piece pieces ih =>
    rw [List.map_cons, List.flatten_cons, List.flatten_cons, ih]
    exact List.flatMap_append.symm

/-- A call on the query log, or something that happens between two calls. A log may be opened anew with
other settings; what the call that opens a file got is part of it. -/
inductive LogCall (H : Type) where
  | start (settings : LogSettings) (opened : Option H)
  | rotate (opened : Option H)
  | write (time : Nat) (client : IpAddress) (summary : Summary) (length : Nat)
  | flush
  | outside

namespace LogCall

variable {H F : Type} [DecidableEq F]

def isOpening : LogCall H → Bool
  | start _ _ | rotate _ => true
  | _ => false

/-- Whether nothing is left in the buffer after this. -/
def writesOut : LogCall H → Bool
  | start _ _ | rotate _ | flush => true
  | _ => false

/-- The settings that are in force after a call. -/
def settings (before : Option LogSettings) : LogCall H → Option LogSettings
  | start settings _ => some settings
  | _ => before

/-- What is open after a call. -/
def opened (before : Option H) : LogCall H → Option H
  | start _ opened | rotate opened => opened
  | _ => before

/-- The line of a call that writes one for a client that the filter allows. -/
def line (filter : Option Netlist) : LogCall H → Bytes
  | write time client summary length =>
    if Netlist.allows filter client then Utf8.encode (QueryLog.line time client summary length)
    else []
  | _ => []

/-- What a call adds to the lines for a file, by the settings and the opening in force. -/
def adds (object : H → Option F) (f : F) (settings : Option LogSettings) (opened : Option H)
    (c : LogCall H) : Bytes :=
  match settings, opened with
  | some settings, some handle => if object handle = some f then c.line settings.filter else []
  | _, _ => []

theorem adds_of_line {c : LogCall H} (h : ∀ filter, c.line filter = []) (object : H → Option F)
    (f : F) (settings : Option LogSettings) (opened : Option H) :
    c.adds object f settings opened = [] := by
  unfold adds
  split
  · rw [h, ite_self]
  · rfl

/-- What the pieces of a line leave behind: if all were put and only the flush after them failed, the
whole line. -/
inductive LeftOfLine (eager : Bool) (pieces : List Bytes) : Option WriteFault → Bytes → Prop where
  | put {fault : Option WriteFault} {left : Bytes} : Writer.Left pieces fault left →
      LeftOfLine eager pieces fault left
  | unflushed {why : WriteFault} : eager = true → LeftOfLine eager pieces (some why) pieces.flatten

/-- What a call that may have failed leaves behind for a file, by the settings and the opening in force. -/
inductive Leaves (object : H → Option F) (f : F) (settings : Option LogSettings) (opened : Option H) :
    LogCall H × Option WriteFault → Bytes → Prop where
  | nothing {c : LogCall H} {fault : Option WriteFault} : c.adds object f settings opened = [] →
      Leaves object f settings opened (c, fault) []
  | line {inForce : LogSettings} {handle : H} {time : Nat} {client : IpAddress} {summary : Summary}
      {length : Nat} {fault : Option WriteFault} {left : Bytes} : settings = some inForce →
      opened = some handle → object handle = some f → Netlist.allows inForce.filter client = true →
      LeftOfLine inForce.eager ((QueryLog.linePieces time client summary length).map Utf8.encode)
        fault left →
      Leaves object f settings opened (.write time client summary length, fault) left

/-- The lines for a file of calls that begin with these settings and this opening in force. -/
def lines (object : H → Option F) (f : F) :
    Option LogSettings → Option H → List (LogCall H) → Bytes
  | _, _, [] => []
  | before, open_, c :: calls =>
    c.adds object f before open_ ++ lines object f (c.settings before) (c.opened open_) calls

section

variable {object : H → Option F} {f : F} {settings : Option LogSettings} {opened : Option H}

/-- An opening adds no line of its own. -/
theorem lines_concat_of_isOpening {c : LogCall H} (hopening : c.isOpening = true)
    (calls : List (LogCall H)) :
    lines object f settings opened (calls ++ [c]) = lines object f settings opened calls := by
  have hline : ∀ filter, c.line filter = [] := by
    cases c with
    | start | rotate => exact fun _ => rfl
    | write | flush | outside => cases hopening
  induction calls generalizing settings opened with
  | nil => simp only [List.nil_append, lines, adds_of_line hline]
  | cons d calls ih => rw [List.cons_append, lines, lines, ih]

/-- Within one opening the settings and the file stay as they are. -/
theorem lines_of_not_isOpening {calls : List (LogCall H)}
    (hcalls : ∀ c ∈ calls, c.isOpening = false) : lines object f settings opened calls =
      calls.flatMap (adds object f settings opened) := by
  induction calls with
  | nil => rfl
  | cons c calls ih =>
    obtain ⟨hc, hrest⟩ := List.forall_mem_cons.mp hcalls
    rw [lines, List.flatMap_cons, ← ih hrest]
    cases c with
    | start | rotate => cases hc
    | write | flush | outside => rfl

/-- A call that does not fail leaves its whole line. -/
theorem Leaves.eq_adds {c : LogCall H} {left : Bytes}
    (h : Leaves object f settings opened (c, none) left) : left = c.adds object f settings opened := by
  cases h with
  | nothing hnothing => exact hnothing.symm
  | line hsettings hopened hobject hallows hleft =>
    cases hleft with
    | put hput =>
      simp only [hput.eq_flatten, hsettings, hopened, adds, hobject, LogCall.line, hallows, if_true,
        Utf8.encode_flatten, QueryLog.line]

end

end LogCall

namespace QueryLog

variable {σ H F : Type} [DecidableEq F]

def opened (log : QueryLog H) : Option H := log.writer.map (·.handle)

/-- What a log holds back of the lines for a file. -/
def unwritten (object : H → Option F) (f : F) (log : QueryLog H) : Bytes :=
  match log.writer with
  | some w => if object w.handle = some f then w.pending else []
  | none => []

/-- A log without settings has nothing open, and one that flushes after every line has nothing in its
buffer between the calls. -/
structure Tidy (log : QueryLog H) : Prop where
  closed : log.settings = none → log.writer = none
  eager : ∀ settings ∈ log.settings, settings.eager = true → ∀ w ∈ log.writer, w.pending = []

/-- With a view to one file: of what a log held back and was given, the beginning is written and the rest
is held back. -/
def Passes (object : H → Option F) (content : σ → F → Bytes) (f : F) (log : QueryLog H) (s : σ)
    (given : Bytes) (log' : QueryLog H) (t : σ) : Prop :=
  ∃ written, log.unwritten object f ++ given = written ++ log'.unwritten object f ∧
    content t f = content s f ++ written

theorem Passes.refl {object : H → Option F} {content : σ → F → Bytes} {f : F} (log : QueryLog H)
    (s : σ) : log.Passes object content f s [] log s :=
  ⟨[], List.append_nil _, (List.append_nil _).symm⟩

/-- What a call comes to where no write fails. A log that is opened anew takes the place of the old one,
which is flushed. Between the calls others may do something to the machine. -/
inductive Calls (files : AppendFiles (StateM σ) H) (others : σ → σ → Prop) :
    QueryLog H × σ → LogCall H → QueryLog H × σ → Prop where
  | start {log old log' : QueryLog H} {s t u : σ} {opening : Option Failure}
      (settings : LogSettings) : (log.flush files).run s = ((old, none), t) →
      (QueryLog.start files settings).run t = ((log', ⟨none, opening⟩), u) →
      Calls files others (log, s) (.start settings log'.opened) (log', u)
  | rotate {log log' : QueryLog H} {s t : σ} {opening : Option Failure} :
      (log.rotate files).run s = ((log', ⟨none, opening⟩), t) →
      Calls files others (log, s) (.rotate log'.opened) (log', t)
  | write {log log' : QueryLog H} {s t : σ} (time : Nat) (client : IpAddress) (summary : Summary)
      (length : Nat) : (log.write files time client summary length).run s = ((log', none), t) →
      Calls files others (log, s) (.write time client summary length) (log', t)
  | flush {log log' : QueryLog H} {s t : σ} : (log.flush files).run s = ((log', none), t) →
      Calls files others (log, s) .flush (log', t)
  | outside {log : QueryLog H} {s t : σ} : others s t → Calls files others (log, s) .outside (log, t)

section

variable {files : AppendFiles (StateM σ) H} {object : H → Option F} {content : σ → F → Bytes}
  {log log' : QueryLog H} {s t : σ}

theorem unwritten_of_writer {w : Writer H} (hwriter : log.writer = some w) (f : F) :
    log.unwritten object f = if object w.handle = some f then w.pending else [] := by
  rw [unwritten, hwriter]

theorem unwritten_of_empty (hempty : ∀ w ∈ log.writer, w.pending = []) (f : F) :
    log.unwritten object f = [] := by
  match hwriter : log.writer with
  | none => rw [unwritten, hwriter]
  | some w => rw [unwritten_of_writer hwriter, hempty w hwriter, ite_self]

/-- A flush keeps the file open, even if it fails. -/
theorem same_of_flush {fault : Option WriteFault}
    (hrun : (log.flush files).run s = ((log', fault), t)) :
    log'.settings = log.settings ∧ log'.opened = log.opened := by
  match hwriter : log.writer with
  | none =>
    rw [flush, hwriter] at hrun
    cases hrun
    exact ⟨rfl, rfl⟩
  | some w =>
    rw [flush, hwriter] at hrun
    rcases hflush : (w.flush files).run s with ⟨⟨w', fault'⟩, u⟩
    rw [run_bind hflush] at hrun
    cases hrun
    exact ⟨rfl, by simp [opened, hwriter, Writer.handle_of_flush hflush]⟩

theorem passes_of_flush (hfiles : files.Keeps object content) {fault : Option WriteFault}
    (hrun : (log.flush files).run s = ((log', fault), t)) :
    (fault = none → ∀ w ∈ log'.writer, w.pending = []) ∧
    ∀ f, log.Passes object content f s [] log' t := by
  match hwriter : log.writer with
  | none =>
    rw [flush, hwriter] at hrun
    cases hrun
    exact ⟨fun _ => by simp [hwriter], fun f => .refl log s⟩
  | some w =>
    rw [flush, hwriter] at hrun
    rcases hflush : (w.flush files).run s with ⟨⟨w', fault⟩, u⟩
    rw [run_bind hflush] at hrun
    cases hrun
    obtain ⟨hpasses, hempty⟩ := Writer.passes_of_flush hfiles hflush
    refine ⟨fun hnone => by simpa using hempty hnone, fun f => ?_⟩
    have haccount := hpasses.account f
    rw [ite_self] at haccount
    rw [Passes, unwritten_of_writer hwriter, unwritten_of_writer rfl]
    exact haccount

theorem flush_cases (hfiles : files.Keeps object content)
    (hrun : (log.flush files).run s = ((log', none), t)) :
    log'.settings = log.settings ∧ log'.opened = log.opened ∧
    (∀ w ∈ log'.writer, w.pending = []) ∧
    ∀ f, content t f = content s f ++ log.unwritten object f := by
  obtain ⟨hsettings, hopened⟩ := same_of_flush hrun
  obtain ⟨hempty, hpasses⟩ := passes_of_flush hfiles hrun
  refine ⟨hsettings, hopened, hempty rfl, fun f => ?_⟩
  obtain ⟨written, hsplit, hcontent⟩ := hpasses f
  rw [unwritten_of_empty (hempty rfl), List.append_nil, List.append_nil] at hsplit
  rw [hcontent, hsplit]

/-- Closing writes out what the log holds back, or loses the end of it. -/
theorem closeOld_cases (hfiles : files.Keeps object content) {fault : Option WriteFault}
    (hrun : (closeOld files log.writer).run s = (fault, t)) (f : F) :
    ∃ written lost, log.unwritten object f = written ++ lost ∧
      content t f = content s f ++ written ∧ (fault = none → lost = []) := by
  match hwriter : log.writer with
  | none =>
    rw [hwriter, closeOld] at hrun
    cases hrun
    exact ⟨[], [], by simp [unwritten, hwriter], by simp, fun _ => rfl⟩
  | some w =>
    rw [hwriter, closeOld, close] at hrun
    rcases hflush : (w.flush files).run s with ⟨⟨w', fault'⟩, u⟩
    rw [run_bind hflush] at hrun
    rcases hagain : (w'.flush files).run u with ⟨⟨w'', fault''⟩, v⟩
    rw [run_bind hagain] at hrun
    cases hrun
    obtain ⟨hfirst, hempty⟩ := Writer.passes_of_flush hfiles hflush
    obtain ⟨hsecond, -⟩ := Writer.passes_of_flush hfiles hagain
    obtain ⟨written, hsplit, hcontent⟩ := (hfirst.trans hsecond).account f
    simp only [List.append_nil, ite_self] at hsplit
    refine ⟨written, _, (unwritten_of_writer hwriter f).trans hsplit, hcontent, fun hnone => ?_⟩
    -- After a flush without a fault there is nothing that a second one could write.
    rw [Writer.flush, hempty hnone, Writer.writeOut] at hagain
    cases hagain
    exact ite_self _

theorem rotate_closes (hfiles : files.Keeps object content) {faults : RotationFaults}
    (hrun : (log.rotate files).run s = ((log', faults), t)) :
    log'.settings = log.settings ∧
    (log.settings = none → log' = log ∧ t = s) ∧
    ∀ settings, log.settings = some settings → ∃ u answer,
      (∀ f, ∃ written lost, log.unwritten object f = written ++ lost ∧
        content u f = content s f ++ written ∧ (faults.flushing = none → lost = [])) ∧
      (files.openFile settings.path).run u = (answer, t) ∧
      log'.writer = answer.toOption.map (⟨·, []⟩) := by
  match hsettings : log.settings with
  | none =>
    rw [rotate, hsettings] at hrun
    cases hrun
    exact ⟨hsettings, fun _ => ⟨rfl, rfl⟩, nofun⟩
  | some settings =>
    rw [rotate, hsettings] at hrun
    rcases hclose : (closeOld files log.writer).run s with ⟨flushing, u⟩
    rw [run_bind hclose] at hrun
    rcases hopen : (files.openFile settings.path).run u with ⟨answer, v⟩
    rw [run_bind hopen] at hrun
    cases answer with
    | ok handle =>
      cases hrun
      refine ⟨rfl, nofun, fun settings' hsettings' => ?_⟩
      cases hsettings'
      exact ⟨u, .ok handle, closeOld_cases hfiles hclose, hopen, rfl⟩
    | error why =>
      cases hrun
      refine ⟨rfl, nofun, fun settings' hsettings' => ?_⟩
      cases hsettings'
      exact ⟨u, .error why, closeOld_cases hfiles hclose, hopen, rfl⟩

theorem rotate_cases (hfiles : files.Keeps object content) {opening : Option Failure}
    (hrun : (log.rotate files).run s = ((log', ⟨none, opening⟩), t)) :
    log'.settings = log.settings ∧
    (log.settings = none → log' = log ∧ t = s) ∧
    ∀ settings, log.settings = some settings → ∃ u answer,
      (∀ f, content u f = content s f ++ log.unwritten object f) ∧
      (files.openFile settings.path).run u = (answer, t) ∧
      log'.writer = answer.toOption.map (⟨·, []⟩) := by
  obtain ⟨hkept, hnone, hopens⟩ := rotate_closes hfiles hrun
  refine ⟨hkept, hnone, fun settings hsettings => ?_⟩
  obtain ⟨u, answer, hclosed, hopen, hwriter⟩ := hopens settings hsettings
  refine ⟨u, answer, fun f => ?_, hopen, hwriter⟩
  obtain ⟨written, lost, hsplit, hcontent, hlost⟩ := hclosed f
  rw [hcontent, hsplit, hlost rfl, List.append_nil]

theorem exists_flush {d : Disk} {log : QueryLog Disk.Opened} {number : Nat} {pending : Bytes}
    (hwriter : log.writer = some ⟨.file number, pending⟩) (hfile : number < d.files.size) :
    ∃ d', (log.flush Disk.appendFiles).run d =
      (({ log with writer := some ⟨.file number, []⟩ }, none), d') := by
  obtain ⟨d', hflush⟩ := Disk.flush_file hfile pending
  refine ⟨d', ?_⟩
  rw [flush, hwriter]
  simp only
  rw [run_bind hflush]
  rfl

/-- A log whose file is there can be closed without a fault, whatever its path leads to now. -/
theorem exists_rotate {d : Disk} {log : QueryLog Disk.Opened} {settings : LogSettings}
    {number : Nat} {pending : Bytes} (hsettings : log.settings = some settings)
    (hwriter : log.writer = some ⟨.file number, pending⟩) (hfile : number < d.files.size) :
    ∃ log' opening d', (log.rotate Disk.appendFiles).run d = ((log', ⟨none, opening⟩), d') := by
  obtain ⟨d₁, hflush⟩ := Disk.flush_file hfile pending
  have hagain : (Writer.flush Disk.appendFiles ⟨.file number, []⟩).run d₁ =
      ((⟨.file number, []⟩, none), d₁) := by
    rw [Writer.flush, Writer.writeOut]
    rfl
  have hclose : (closeOld Disk.appendFiles log.writer).run d = (none, d₁) := by
    rw [hwriter, closeOld, close, run_bind hflush, run_bind hagain]
    rfl
  rcases hopen : (Disk.appendFiles.openFile settings.path).run d₁ with ⟨answer, d₂⟩
  rw [rotate, hsettings]
  simp only
  rw [run_bind hclose, run_bind hopen]
  cases answer with
  | ok handle => exact ⟨_, _, _, rfl⟩
  | error why => exact ⟨_, _, _, rfl⟩

theorem writeLine_cases (hfiles : files.Keeps object content) {settings : LogSettings}
    {pieces : List Text} {w w' : Writer H} {fault : Option WriteFault}
    (hrun : (writeLine files settings w pieces).run s = ((w', fault), t)) :
    ∃ left, LogCall.LeftOfLine settings.eager (pieces.map Utf8.encode) fault left ∧
      w.Passes object content s left w' t ∧
      (fault = none → settings.eager = true → w'.pending = []) := by
  rcases hput : (w.putAll files (pieces.map Utf8.encode)).run s with ⟨⟨v, fault'⟩, u⟩
  rw [writeLine, run_bind hput] at hrun
  obtain ⟨left, hleft, hpasses⟩ := Writer.left_of_putAll hfiles hput
  cases fault' with
  | some why =>
    cases hrun
    exact ⟨left, .put hleft, hpasses, nofun⟩
  | none =>
    cases heager : settings.eager with
    | true =>
      simp only [heager] at hrun
      obtain ⟨hflushed, hempty⟩ := Writer.passes_of_flush hfiles hrun
      have hboth := hpasses.trans hflushed
      rw [List.append_nil] at hboth
      refine ⟨left, ?_, hboth, fun hnone _ => hempty hnone⟩
      cases fault with
      | none => exact .put hleft
      | some why => exact hleft.eq_flatten ▸ .unflushed rfl
    | false =>
      simp only [heager] at hrun
      cases hrun
      exact ⟨left, .put hleft, hpasses, nofun⟩

theorem leaves_of_write (hfiles : files.Keeps object content) {time : Nat} {client : IpAddress}
    {summary : Summary} {length : Nat} {fault : Option WriteFault}
    (hrun : (log.write files time client summary length).run s = ((log', fault), t)) :
    log'.settings = log.settings ∧ log'.opened = log.opened ∧
    (fault = none → log.Tidy → log'.Tidy) ∧
    ∀ f, ∃ left, LogCall.Leaves object f log.settings log.opened
        (.write time client summary length, fault) left ∧
      log.Passes object content f s left log' t := by
  match hsettings : log.settings, hwriter : log.writer with
  | none, _ | some _, none =>
    simp only [write, hsettings, hwriter] at hrun
    cases hrun
    refine ⟨hsettings, rfl, fun _ => id, fun f => ⟨[], .nothing ?_, .refl log s⟩⟩
    simp [LogCall.adds, opened, hwriter]
  | some settings, some w =>
    simp only [write, hsettings, hwriter] at hrun
    split at hrun
    · next hallows =>
      rcases hline : (writeLine files settings w (linePieces time client summary length)).run s with
        ⟨⟨w', fault'⟩, u⟩
      rw [run_bind hline] at hrun
      cases hrun
      obtain ⟨left, hleft, hpasses, heager⟩ := writeLine_cases hfiles hline
      refine ⟨rfl, by simp [opened, hwriter, hpasses.1], fun hnone _ => ⟨nofun, ?_⟩, fun f => ?_⟩
      · simpa using heager hnone
      · have haccount := hpasses.account f
        have hheld : unwritten object f ⟨some settings, some w'⟩ = _ := unwritten_of_writer rfl f
        rw [← unwritten_of_writer hwriter, ← hheld] at haccount
        by_cases hobject : object w.handle = some f
        · rw [if_pos hobject] at haccount
          exact ⟨left, .line rfl (by simp [opened, hwriter]) hobject hallows hleft, haccount⟩
        · rw [if_neg hobject] at haccount
          exact ⟨[], .nothing (by simp [LogCall.adds, opened, hwriter, hobject]), haccount⟩
    · next hallows =>
      cases hrun
      refine ⟨hsettings, rfl, fun _ => id, fun f => ⟨[], .nothing ?_, .refl log s⟩⟩
      simp [LogCall.adds, LogCall.line, opened, hwriter, hallows]

theorem write_cases (hfiles : files.Keeps object content) {time : Nat} {client : IpAddress}
    {summary : Summary} {length : Nat}
    (hrun : (log.write files time client summary length).run s = ((log', none), t)) :
    log'.settings = log.settings ∧ log'.opened = log.opened ∧ (log.Tidy → log'.Tidy) ∧
    ∀ f, ∃ written, log.unwritten object f ++
        (LogCall.write time client summary length).adds object f log.settings log.opened =
      written ++ log'.unwritten object f ∧ content t f = content s f ++ written := by
  obtain ⟨hsettings, hopened, htidy, hleaves⟩ := leaves_of_write hfiles hrun
  refine ⟨hsettings, hopened, htidy rfl, fun f => ?_⟩
  obtain ⟨left, hleft, hpasses⟩ := hleaves f
  rw [← hleft.eq_adds]
  exact hpasses

end

section

variable {files : AppendFiles (StateM σ) H} {others : σ → σ → Prop} {object : H → Option F}
  {content : σ → F → Bytes} {log log' : QueryLog H} {s t : σ} {c : LogCall H}

/-- An opening asks for the path in force, once what the log held back is in its file. -/
def Opens (files : AppendFiles (StateM σ) H) (object : H → Option F) (content : σ → F → Bytes)
    (log : QueryLog H) (s : σ) (settings : LogSettings) (log' : QueryLog H) (t : σ) : Prop :=
  ∃ u answer, (∀ f, content u f = content s f ++ log.unwritten object f) ∧
    (files.openFile settings.path).run u = (answer, t) ∧
    log'.writer = answer.toOption.map (⟨·, []⟩)

theorem Opens.content_eq (hfiles : files.Keeps object content) {settings : LogSettings}
    (h : log.Opens files object content s settings log' t) (f : F) :
    content t f = content s f ++ log.unwritten object f := by
  obtain ⟨u, answer, hclosed, hopen, -⟩ := h
  rw [← hclosed f, ← hfiles.openFile settings.path u f, hopen]

theorem Opens.empty {settings : LogSettings}
    (h : log.Opens files object content s settings log' t) : ∀ w ∈ log'.writer, w.pending = [] := by
  obtain ⟨u, answer, -, -, hwriter⟩ := h
  intro w hw
  rw [hwriter] at hw
  cases answer with
  | ok handle =>
    cases hw
    rfl
  | error why => cases hw

theorem Calls.opens (hfiles : files.Keeps object content)
    (hcall : Calls files others (log, s) c (log', t)) (hopening : c.isOpening = true)
    {settings : LogSettings} (hsettings : log'.settings = some settings) :
    log.Opens files object content s settings log' t := by
  cases hcall with
  | @start _ old _ _ u _ _ settings' hflush hstart =>
    obtain ⟨-, -, -, hcontent⟩ := flush_cases hfiles hflush
    obtain ⟨hkept, -, hopens⟩ := rotate_cases hfiles hstart
    rw [hkept] at hsettings
    obtain ⟨v, answer, hclosed, hopen, hwriter⟩ := hopens settings hsettings
    refine ⟨v, answer, fun f => ?_, hopen, hwriter⟩
    rw [hclosed f, hcontent f]
    exact List.append_nil _
  | rotate hrun =>
    obtain ⟨hkept, -, hopens⟩ := rotate_cases hfiles hrun
    rw [hkept] at hsettings
    exact hopens settings hsettings
  | write | flush | outside => cases hopening

/-- What one call does for a file that nobody else writes. -/
structure Account (object : H → Option F) (content : σ → F → Bytes) (f : F) (log : QueryLog H) (s : σ)
    (c : LogCall H) (log' : QueryLog H) (t : σ) : Prop where
  settings_eq : log'.settings = c.settings log.settings
  opened_eq : log'.opened = c.opened log.opened
  tidy : log.Tidy → log'.Tidy
  empty : c.writesOut = true → log.Tidy → log'.unwritten object f = []
  content_eq : ∃ written, log.unwritten object f ++ c.adds object f log.settings log.opened =
    written ++ log'.unwritten object f ∧ content t f = content s f ++ written

theorem account_of_opens (hfiles : files.Keeps object content) {settings : LogSettings} (f : F)
    (hsettings : log'.settings = some settings) (hkept : c.settings log.settings = some settings)
    (hopened : c.opened log.opened = log'.opened) (hline : ∀ filter, c.line filter = [])
    (hopens : log.Opens files object content s settings log' t) :
    log.Account object content f s c log' t := by
  have hunwritten : log'.unwritten object f = [] := unwritten_of_empty hopens.empty f
  refine ⟨hsettings.trans hkept.symm, hopened.symm, fun _ => ⟨?_, fun _ _ _ => hopens.empty⟩,
    fun _ _ => hunwritten, _, ?_, hopens.content_eq hfiles f⟩
  · intro hnone
    rw [hsettings] at hnone
    cases hnone
  · rw [LogCall.adds_of_line hline, hunwritten]

theorem Calls.account (hfiles : files.Keeps object content) {f : F}
    (hothers : ∀ s t, others s t → content t f = content s f)
    (hcall : Calls files others (log, s) c (log', t)) : log.Account object content f s c log' t := by
  have hopens (settings : LogSettings) (hopening : c.isOpening = true) :
      log'.settings = some settings → log.Opens files object content s settings log' t :=
    hcall.opens hfiles hopening
  cases hcall with
  | start settings hflush hstart =>
    have hsettings := (rotate_cases hfiles hstart).1
    exact account_of_opens hfiles f hsettings rfl rfl (fun _ => rfl) (hopens settings rfl hsettings)
  | rotate hrun =>
    obtain ⟨hkept, hnone, -⟩ := rotate_cases hfiles hrun
    match hsettings : log'.settings with
    | some settings =>
      exact account_of_opens hfiles f hsettings (hkept ▸ hsettings) rfl (fun _ => rfl)
        (hopens settings rfl hsettings)
    | none =>
      obtain ⟨rfl, rfl⟩ := hnone (hkept ▸ hsettings)
      refine ⟨rfl, rfl, id, fun _ htidy => ?_, [], ?_, (List.append_nil _).symm⟩
      · rw [unwritten, htidy.closed hsettings]
      · rw [LogCall.adds_of_line (fun _ => rfl), List.append_nil, List.nil_append]
  | write time client summary length hrun =>
    obtain ⟨hsettings, hopened, htidy, haccount⟩ := write_cases hfiles hrun
    exact ⟨hsettings, hopened, htidy, nofun, haccount f⟩
  | flush hrun =>
    obtain ⟨hsettings, hopened, hempty, hcontent⟩ := flush_cases hfiles hrun
    refine ⟨hsettings, hopened, fun htidy => ⟨fun hnone => ?_, fun _ _ _ => hempty⟩,
      fun _ _ => unwritten_of_empty hempty f, _, ?_, hcontent f⟩
    · rw [hsettings] at hnone
      rw [opened, opened, htidy.closed hnone] at hopened
      simpa using hopened
    · rw [LogCall.adds_of_line (fun _ => rfl), unwritten_of_empty hempty f]
  | outside hothers' =>
    refine ⟨rfl, rfl, id, nofun, [], ?_, ?_⟩
    · rw [LogCall.adds_of_line (fun _ => rfl), List.append_nil, List.nil_append]
    · rw [hothers s t hothers', List.append_nil]

/-! Any number of calls. -/

variable {p q : QueryLog H × σ} {calls : List (LogCall H)} {f : F}

theorem account_of_trace (hfiles : files.Keeps object content)
    (hothers : ∀ s t, others s t → content t f = content s f)
    (hrun : Trace (Calls files others) p calls q) :
    ∃ written, p.1.unwritten object f ++ LogCall.lines object f p.1.settings p.1.opened calls =
      written ++ q.1.unwritten object f ∧ content q.2 f = content p.2 f ++ written := by
  induction hrun with
  | nil p => exact ⟨[], by rw [LogCall.lines, List.append_nil, List.nil_append], by simp⟩
  | @cons p r q c calls hcall _ ih =>
    have haccount := hcall.account hfiles hothers
    obtain ⟨first, hsplit, hcontent⟩ := haccount.content_eq
    obtain ⟨rest, hsplit', hcontent'⟩ := ih
    rw [haccount.settings_eq, haccount.opened_eq] at hsplit'
    refine ⟨first ++ rest, ?_, ?_⟩
    · rw [LogCall.lines, ← List.append_assoc, hsplit, List.append_assoc, hsplit',
        List.append_assoc]
    · rw [hcontent', hcontent, List.append_assoc]

theorem tidy_of_trace (hfiles : files.Keeps object content)
    (hothers : ∀ s t, others s t → content t f = content s f)
    (hrun : Trace (Calls files others) p calls q) (htidy : p.1.Tidy) : q.1.Tidy :=
  hrun.invariant (P := fun p => p.1.Tidy)
    (fun hcall => (hcall.account hfiles hothers).tidy) htidy

theorem same_of_trace (hfiles : files.Keeps object content)
    (hothers : ∀ s t, others s t → content t f = content s f)
    (hrun : Trace (Calls files others) p calls q) (hcalls : ∀ c ∈ calls, c.isOpening = false) :
    q.1.settings = p.1.settings ∧ q.1.opened = p.1.opened := by
  induction hrun with
  | nil => exact ⟨rfl, rfl⟩
  | @cons p r q c calls hcall _ ih =>
    obtain ⟨hc, hrest⟩ := List.forall_mem_cons.mp hcalls
    have haccount := hcall.account hfiles hothers
    obtain ⟨hsettings, hopened⟩ := ih hrest
    rw [hsettings, hopened, haccount.settings_eq, haccount.opened_eq]
    cases c with
    | start | rotate => cases hc
    | write | flush | outside => exact ⟨rfl, rfl⟩

/-- From an empty buffer on a file gets its lines from the first one on, and has all of them when nothing
is held back. -/
theorem written_of_trace (hfiles : files.Keeps object content)
    (hothers : ∀ s t, others s t → content t f = content s f) (htidy : p.1.Tidy)
    (hempty : p.1.unwritten object f = []) (hrun : Trace (Calls files others) p calls q) :
    ∃ written, content q.2 f = content p.2 f ++ written ∧
      written <+: LogCall.lines object f p.1.settings p.1.opened calls ∧
      ((∃ c ∈ calls.getLast?, c.writesOut = true) ∨
          (∃ settings ∈ q.1.settings, settings.eager = true) →
        written = LogCall.lines object f p.1.settings p.1.opened calls) := by
  obtain ⟨written, hsplit, hcontent⟩ := account_of_trace hfiles hothers hrun
  rw [hempty, List.nil_append] at hsplit
  refine ⟨written, hcontent, ⟨_, hsplit.symm⟩, fun hout => ?_⟩
  have hnone : q.1.unwritten object f = [] := by
    rcases hout with ⟨c, hc, hwrites⟩ | ⟨settings, hsettings, heager⟩
    · obtain ⟨front, rfl⟩ := List.getLast?_eq_some_iff.mp hc
      obtain ⟨r, r', hfront, hcall, hend⟩ := hrun.exists_step
      cases hend
      exact (hcall.account hfiles hothers).empty hwrites (tidy_of_trace hfiles hothers hfront htidy)
    · have htidy' := tidy_of_trace hfiles hothers hrun htidy
      exact unwritten_of_empty (htidy'.eager settings hsettings heager) f
  rw [hsplit, hnone, List.append_nil]

/-- Any calls on a log that starts with no file open, where no write fails and nobody else writes the
file. What it holds is what it held, then its lines in the order of the calls, none twice, and the only
ones that may be missing are at the end. Each opening asks for the path in force, and finds in the file
it gets every line of the openings before. While it is in force the file grows by its lines, and by
nothing when it got no file. After a flush, an opening, or any call where every line is flushed, nothing
is missing. -/
theorem contents_of_calls (hfiles : files.Keeps object content)
    (hothers : ∀ s t, others s t → content t f = content s f) {log₀ : QueryLog H} {s₀ : σ}
    (hclosed : log₀.writer = none) (hrun : Trace (Calls files others) (log₀, s₀) calls (log, s)) :
    (∃ written, content s f = content s₀ f ++ written ∧
      written <+: LogCall.lines object f log₀.settings none calls ∧
      ((∃ c ∈ calls.getLast?, c.writesOut = true) ∨
          (∃ settings ∈ log.settings, settings.eager = true) →
        written = LogCall.lines object f log₀.settings none calls)) ∧
    ∀ before opening during, calls = before ++ opening :: during → opening.isOpening = true →
      (∀ c ∈ during, c.isOpening = false) →
      ∃ log₁ s₁ log₂ s₂, Trace (Calls files others) (log₀, s₀) before (log₁, s₁) ∧
        Calls files others (log₁, s₁) opening (log₂, s₂) ∧
        Trace (Calls files others) (log₂, s₂) during (log, s) ∧
        (∀ settings, log.settings = some settings → ∃ u answer,
          (files.openFile settings.path).run u = (answer, s₂) ∧
          opening.opened none = answer.toOption) ∧
        content s₂ f = content s₀ f ++ LogCall.lines object f log₀.settings none before ∧
        ∃ written, content s f = content s₂ f ++ written ∧
          written <+: during.flatMap (LogCall.adds object f log.settings (opening.opened none)) ∧
          ((∃ c ∈ during.getLast?, c.writesOut = true) ∨
              (∃ settings ∈ log.settings, settings.eager = true) →
            written = during.flatMap
              (LogCall.adds object f log.settings (opening.opened none))) := by
  have htidy : log₀.Tidy := ⟨fun _ => hclosed, fun _ _ _ => by simp [hclosed]⟩
  have hopened : log₀.opened = none := by rw [QueryLog.opened, hclosed, Option.map_none]
  have hempty : log₀.unwritten object f = [] := unwritten_of_empty (by simp [hclosed]) f
  refine ⟨?_, ?_⟩
  · rw [← hopened]
    exact written_of_trace hfiles hothers htidy hempty hrun
  intro before opening during hcalls hopening hduring
  rw [hcalls] at hrun
  obtain ⟨⟨log₁, s₁⟩, ⟨log₂, s₂⟩, hbefore, hcall, hrest⟩ := hrun.exists_step
  have haccount := hcall.account hfiles hothers
  have htidy₁ := tidy_of_trace hfiles hothers hbefore htidy
  have hwrites : opening.writesOut = true := by
    cases opening with
    | start | rotate => rfl
    | write | flush | outside => cases hopening
  have hopened₂ : log₂.opened = opening.opened none := by
    rw [haccount.opened_eq]
    cases opening with
    | start | rotate => rfl
    | write | flush | outside => cases hopening
  obtain ⟨hsettings, -⟩ := same_of_trace hfiles hothers hrest hduring
  refine ⟨log₁, s₁, log₂, s₂, hbefore, hcall, hrest, ?_, ?_, ?_⟩
  · intro settings hsome
    obtain ⟨u, answer, -, hopen, hwriter⟩ := hcall.opens hfiles hopening (hsettings ▸ hsome)
    refine ⟨u, answer, hopen, ?_⟩
    rw [← hopened₂, QueryLog.opened, hwriter]
    cases answer <;> rfl
  · obtain ⟨written, hcontent, -, hall⟩ := written_of_trace hfiles hothers htidy hempty
      (hbefore.append (.single hcall))
    rw [hcontent, hall (Or.inl ⟨opening, by simp, hwrites⟩), hopened,
      LogCall.lines_concat_of_isOpening hopening]
  · have hthen := written_of_trace hfiles hothers (haccount.tidy htidy₁)
      (haccount.empty hwrites htidy₁) hrest
    rwa [LogCall.lines_of_not_isOpening hduring, ← hsettings, hopened₂] at hthen

end

/-- Settings that flush only where they have to. -/
def plain : LogSettings := LogSettings.read "q".toList none

def oneAnswer : Summary := ⟨['a', '.'], some .a, .internet, .noError, 1⟩

/-- Two lines of one opening, the second one written after the file was moved away. -/
theorem contents_of_calls_moved :
    let text := line 0 (.v4 .localhost) oneAnswer 7
    ∃ opened log d, Trace (Calls Disk.appendFiles Disk.Rearranged) (disabled, Disk.blank 0)
      [.start plain (some (.file 0)), .write 0 (.v4 .localhost) oneAnswer 7, .outside,
        .write 0 (.v4 .localhost) oneAnswer 7, .rotate opened] (log, d) ∧
      d.content 0 = Utf8.encode text ++ Utf8.encode text := by
  intro text
  obtain ⟨log₁, d₁, log₂, d₂, d₃, log₄, d₄, hstart, hopened, hfirst, hmoved, hsecond, hend⟩ :
      ∃ log₁ d₁ log₂ d₂ d₃ log₄ d₄,
        (start Disk.appendFiles plain).run (Disk.blank 0) = ((log₁, ⟨none, none⟩), d₁) ∧
        log₁.opened = some (.file 0) ∧
        (log₁.write Disk.appendFiles 0 (.v4 .localhost) oneAnswer 7).run d₁ = ((log₂, none), d₂) ∧
        d₂.rename "q".toList "r".toList = .ok d₃ ∧
        (log₂.write Disk.appendFiles 0 (.v4 .localhost) oneAnswer 7).run d₃ = ((log₄, none), d₄) ∧
        log₄.settings = some plain ∧ (∃ pending, log₄.writer = some ⟨.file 0, pending⟩) ∧
        d₄.files.size = 1 :=
    ⟨_, _, _, _, _, _, _, rfl, rfl, rfl, rfl, rfl, rfl, ⟨_, rfl⟩, rfl⟩
  obtain ⟨hsettings, ⟨pending, hwriter⟩, hfile⟩ := hend
  obtain ⟨log', opening, d', hrotate⟩ := exists_rotate hsettings hwriter (hfile ▸ Nat.one_pos)
  have hopening : Calls Disk.appendFiles Disk.Rearranged (disabled, Disk.blank 0) _ (log₁, d₁) :=
    .start plain rfl hstart
  rw [hopened] at hopening
  have hrun : Trace (Calls Disk.appendFiles Disk.Rearranged) (disabled, Disk.blank 0) _ (log', d') :=
    .cons hopening <| .cons (.write _ _ _ _ hfirst) <| .cons (.outside (.rename _ _ hmoved)) <|
      .cons (.write _ _ _ _ hsecond) <| .single (.rotate hrotate)
  obtain ⟨⟨written, hcontent, -, hall⟩, -⟩ := contents_of_calls (f := 0) Disk.appendFiles_keeps
    (fun _ _ h => congrFun (Disk.content_of_rearranged h) 0) rfl hrun
  refine ⟨_, log', d', hrun, ?_⟩
  rw [hcontent, hall (Or.inl ⟨_, rfl, rfl⟩)]
  exact congrArg (Utf8.encode text ++ ·) (List.append_nil _)

end QueryLog

end DnsBlocklist
