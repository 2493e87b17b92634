import DnsBlocklist.Proofs.IpSet.History
import DnsBlocklist.Proofs.Text.Fields
import DnsBlocklist.Proofs.Utf8.Reading

/-! Loads of texts that are put together: of two files one after another, and of bytes that are
decoded line by line. -/

namespace DnsBlocklist.IpSet
set_option autoImplicit false

/-- The warning where `n` lines come before the text it is about. -/
def Warning.after (n : Nat) (w : Warning) : Warning := ⟨n + w.line, w.problem⟩

namespace Loading

/-- The load where `n` lines with these warnings come before its text. -/
def after (n : Nat) (warnings : List Warning) (l : Loading) : Loading :=
  ⟨l.set, l.base, n + l.lines, l.warnings.map (Warning.after n) ++ warnings⟩

variable {hostBits : HostBits} {n : Nat} {warnings : List Warning} {l : Loading}

theorem apply_after (line : Line) :
    (l.after n warnings).apply line = (l.apply line).after n warnings := by
  cases line with
  | ignored | initial | entry | skipped => rfl

theorem step_after (raw : Text) :
    (l.after n warnings).step hostBits raw = (l.step hostBits raw).after n warnings :=
  apply_after _

theorem foldl_after (raws : List Text) :
    raws.foldl (step hostBits) (l.after n warnings) =
      (raws.foldl (step hostBits) l).after n warnings :=
  List.foldl_hom (after n warnings) fun _ raw => step_after raw

theorem lines_step (raw : Text) : (l.step hostBits raw).lines = l.lines + 1 := by
  rw [step]
  cases Line.read hostBits l.base raw with
  | ignored | initial | entry | skipped => rfl

theorem lines_foldl (raws : List Text) :
    (raws.foldl (step hostBits) l).lines = l.lines + raws.length := by
  induction raws generalizing l with
  | nil => rfl
  | cons raw raws ih =>
    rw [List.foldl_cons, ih, lines_step, List.length_cons]
    omega

end Loading

/-- A line that sets the default listing back to the one every text starts with. -/
def resetLine : Text := ":127.0.0.2:".toList

theorem setsDefault_resetLine (base : Listing) : SetsDefault base resetLine Listing.initial :=
  ⟨"127.0.0.2:".toList, rfl, .noText (t := "127.0.0.2".toList) (by decide) (.given rfl) rfl⟩

theorem Loading.step_resetLine (hostBits : HostBits) (l : Loading) :
    l.step hostBits resetLine = (start l.set).after (l.lines + 1) l.warnings := by
  rw [l.step_of_setsDefault hostBits (setsDefault_resetLine l.base)]
  simp [after, start]

theorem splitOn_reset (t u : Text) :
    (t ++ "\n:127.0.0.2:\n".toList ++ u).splitOn '\n' =
      t.splitOn '\n' ++ resetLine :: u.splitOn '\n' := by
  have hfree : '\n' ∉ resetLine := by decide
  have hreset : "\n:127.0.0.2:\n".toList = '\n' :: (resetLine ++ ['\n']) := by decide
  have htext : t ++ "\n:127.0.0.2:\n".toList ++ u = t ++ '\n' :: (resetLine ++ '\n' :: u) := by
    rw [hreset, List.append_assoc, List.cons_append, List.append_assoc, List.singleton_append]
  rw [htext, List.splitOn_append_cons_self, List.splitOn_append_cons_self,
    List.splitOn_eq_singleton hfree, List.singleton_append]

/-- After a reset line a text is loaded as it is on its own, with what came before it. -/
theorem load_reset (hostBits : HostBits) (s : IpSet) (t u : Text) :
    load hostBits s (t ++ "\n:127.0.0.2:\n".toList ++ u) =
      ((load hostBits (load hostBits s t).1 u).1,
        (load hostBits s t).2 ++ (load hostBits (load hostBits s t).1 u).2.map
          (Warning.after ((t.splitOn '\n').length + 1))) := by
  have hlines : ((t.splitOn '\n').foldl (Loading.step hostBits) (Loading.start s)).lines =
      (t.splitOn '\n').length := by
    rw [Loading.lines_foldl]
    exact Nat.zero_add _
  -- The reset line brings the load to the start of a new one, with lines and warnings before it.
  simp only [load, splitOn_reset, List.foldl_append, List.foldl_cons, Loading.step_resetLine,
    Loading.foldl_after, hlines]
  simp [Loading.after]

/-- Two texts one after another load as one text with a reset line between them. The entries of the
second one start from the initial listing whatever the first one ends with, they replace equal
ranges, and every other range keeps its entry. -/
theorem load_joined (hostBits : HostBits) (s : IpSet) (t u : Text) :
    (load hostBits (load hostBits s t).1 u).1 =
      (load hostBits s (t ++ "\n:127.0.0.2:\n".toList ++ u)).1 ∧
    (load hostBits s t).2.length + (load hostBits (load hostBits s t).1 u).2.length =
      (load hostBits s (t ++ "\n:127.0.0.2:\n".toList ++ u)).2.length ∧
    (∃ h, Entries hostBits Listing.initial (u.splitOn '\n') h) ∧
    ∀ h, Entries hostBits Listing.initial (u.splitOn '\n') h → ∀ s' : IpSet, ∀ r,
      ((∀ x ∈ h, x.1 ≠ r) → (load hostBits s' u).1.get? r = s'.get? r) ∧
      ∀ before e after, h = before ++ (r, e) :: after → (∀ x ∈ after, x.1 ≠ r) →
        (load hostBits s' u).1.get? r = some e := by
  refine ⟨?_, ?_, exists_entries hostBits Listing.initial _, fun h hh s' r => ⟨fun hr => ?_, ?_⟩⟩
  · rw [load_reset]
  · rw [load_reset, List.length_append, List.length_map]
  · rw [hh.load_eq]
    exact get?_insertAll_of_not_mem s' hr
  · rintro before e after rfl hr
    rw [hh.load_eq]
    exact get?_insertAll_last s' before after e hr

/-- A text with a default listing of its own, for a range and for one address in it. -/
def ownDefault : Text := ":127.0.0.9:spam\n10.0.0.0/8\n10.0.0.1".toList

theorem load_joined_ownDefault :
    Entries .reject Listing.initial ("10.0.0.1".toList.splitOn '\n')
      [(Range.around (Ipv4.ofOctets 10 0 0 1) 32, some Listing.initial)] ∧
    (load .reject (load .reject empty ownDefault).1 "10.0.0.1".toList).1.get?
      (Range.around (Ipv4.ofOctets 10 0 0 1) 32) = some (some Listing.initial) ∧
    (load .reject (load .reject empty ownDefault).1 "10.0.0.1".toList).1.get?
      (Range.around (Ipv4.ofOctets 10 0 0 1) 8) =
        some (some ⟨Ipv4.ofOctets 127 0 0 9, some "spam".toList⟩) := by
  have hentry : EntryWritten .reject Listing.initial "10.0.0.1".toList
      (Range.around (Ipv4.ofOctets 10 0 0 1) 32) (some Listing.initial) :=
    (Line.read_eq_entry_iff ..).mp (by decide +kernel)
  have hentries : Entries .reject Listing.initial ("10.0.0.1".toList.splitOn '\n')
      [(Range.around (Ipv4.ofOctets 10 0 0 1) 32, some Listing.initial)] := .entry hentry .nil
  obtain ⟨-, -, -, hget⟩ := load_joined .reject empty ownDefault "10.0.0.1".toList
  have hreplaced := (hget _ hentries (load .reject empty ownDefault).1
    (Range.around (Ipv4.ofOctets 10 0 0 1) 32)).2 [] _ [] rfl (by simp)
  have hkept := (hget _ hentries (load .reject empty ownDefault).1
    (Range.around (Ipv4.ofOctets 10 0 0 1) 8)).1 (by decide +kernel)
  exact ⟨hentries, hreplaced, hkept.trans (by decide +kernel)⟩

/-- The bytes of a file load as its lines, each decoded on its own, where every maximal ill-formed
sequence is read as one replacement character. So what stands on a line has no part in how the
others are cut off and decoded, and bytes that are UTF-8 load as their text. -/
theorem loadBytes_byLine (hostBits : HostBits) (s : IpSet) :
    (∀ bytes, loadBytes hostBits s bytes =
      load hostBits s (Text.join ['\n'] ((bytes.splitOn 10).map Utf8.decode))) ∧
    (∀ bytes t, Utf8.decode bytes = t ↔
      ∃ cs, Utf8.Reads bytes cs ∧ t = cs.map (·.getD (Char.ofNat 0xFFFD))) ∧
    (∀ x y, ∃ before p q after, ∀ bytes, 10 ∉ bytes →
      (x ++ bytes ++ y).splitOn 10 = before ++ (p ++ bytes ++ q) :: after ∧
      (Utf8.decode (x ++ bytes ++ y)).splitOn '\n' =
        before.map Utf8.decode ++ Utf8.decode (p ++ bytes ++ q) :: after.map Utf8.decode) ∧
    ∀ t, loadBytes hostBits s (Utf8.encode t) = load hostBits s t := by
  refine ⟨fun bytes => ?_, fun bytes t => ⟨?_, ?_⟩, fun x y => ?_, fun t => ?_⟩
  · rw [loadBytes, ← Utf8.splitOn_decode, Text.join_splitOn]
  · rintro rfl
    exact ⟨Utf8.scan bytes, Utf8.reads_scan bytes, rfl⟩
  · rintro ⟨cs, hreads, rfl⟩
    rw [Utf8.decode, (Utf8.scan_eq_iff bytes cs).mpr hreads]
    rfl
  · obtain ⟨before, p, q, after, h⟩ := Text.exists_splitOn_append 10 x y
    refine ⟨before, p, q, after, fun bytes hbytes => ⟨h bytes hbytes, ?_⟩⟩
    rw [Utf8.splitOn_decode, h bytes hbytes, List.map_append, List.map_cons]
  · rw [loadBytes, Utf8.decode_encode]

/-- A comment in Latin-1 before a line that lists an address. -/
theorem loadBytes_byLine_latin1 :
    (10 : UInt8) ∉ [(0xFC : UInt8)] ∧
    ∃ before p q after,
      (Utf8.encode "# J".toList ++ [0xFC] ++ Utf8.encode "rgen\n10.0.0.1".toList).splitOn 10 =
        before ++ (p ++ [0xFC] ++ q) :: after ∧
      (Utf8.decode (Utf8.encode "# J".toList ++ [0xFC] ++
        Utf8.encode "rgen\n10.0.0.1".toList)).splitOn '\n' =
          before.map Utf8.decode ++ Utf8.decode (p ++ [0xFC] ++ q) :: after.map Utf8.decode := by
  obtain ⟨before, p, q, after, h⟩ := (loadBytes_byLine .reject empty).2.2.1
    (Utf8.encode "# J".toList) (Utf8.encode "rgen\n10.0.0.1".toList)
  exact ⟨by decide, before, p, q, after, h [0xFC] (by decide)⟩

end DnsBlocklist.IpSet
