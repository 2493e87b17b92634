import DnsBlocklist.Files
import DnsBlocklist.Proofs.Trace

/-! Files that change while they are asked about. Every question takes one moment, and nothing is
assumed about how files at one moment and at the next compare. -/

namespace DnsBlocklist
set_option autoImplicit false

abbrev Timeline := Nat → DataFiles Id

namespace Timeline

def state (t : Timeline) (now : Nat) (path : Path) : Except OsError FileState := (t now).state path

def read (t : Timeline) (now : Nat) (path : Path) : Except OsError Bytes := (t now).read path

/-- The files as a load finds them that asks one question a moment. -/
def files (t : Timeline) : DataFiles (StateM Nat) where
  state path := fun now => (t.state now path, now + 1)
  read path := fun now => (t.read now path, now + 1)

theorem run_state {t : Timeline} {path : Path} {now : Nat} {answer : Except OsError FileState}
    (h : t.state now path = answer) : (t.files.state path).run now = (answer, now + 1) := by
  rw [← h]
  rfl

theorem run_read {t : Timeline} {path : Path} {now : Nat} {answer : Except OsError Bytes}
    (h : t.read now path = answer) : (t.files.read path).run now = (answer, now + 1) := by
  rw [← h]
  rfl

/-- From one moment to just before another one, files stay as they are. -/
def Still (t : Timeline) (paths : List Path) (now later : Nat) : Prop :=
  ∀ moment, now ≤ moment → moment < later → ∀ path ∈ paths,
    t.state moment path = t.state now path ∧ t.read moment path = t.read now path

end Timeline

/-! Questions about one path after the other, one a moment. -/

section Asking

variable {α : Type} (ask : Nat → Path → Except OsError α)

/-- The questions about all paths are answered. -/
inductive Seen : Nat → List Path → List α → Prop where
  | nil (now : Nat) : Seen now [] []
  | cons {now : Nat} {path : Path} {paths : List Path} {a : α} {as : List α} :
      ask now path = .ok a → Seen (now + 1) paths as → Seen now (path :: paths) (a :: as)

/-- The question about a path is refused, and those before it are answered. -/
inductive Refused : Nat → List Path → Path → OsError → Prop where
  | here {now : Nat} {path : Path} {why : OsError} (paths : List Path) :
      ask now path = .error why → Refused now (path :: paths) path why
  | there {now : Nat} {path q : Path} {paths : List Path} {a : α} {why : OsError} :
      ask now path = .ok a → Refused (now + 1) paths q why → Refused now (path :: paths) q why

variable {ask} {now : Nat} {paths : List Path}

theorem seen_or_refused (ask : Nat → Path → Except OsError α) (now : Nat) (paths : List Path) :
    (∃ as, Seen ask now paths as) ∨ ∃ path why, Refused ask now paths path why := by
  induction paths generalizing now with
  | nil => exact Or.inl ⟨[], .nil now⟩
  | cons path paths ih =>
    cases hask : ask now path with
    | error why => exact Or.inr ⟨path, why, .here paths hask⟩
    | ok a =>
      rcases ih (now + 1) with ⟨as, hseen⟩ | ⟨q, why, hrefused⟩
      · exact Or.inl ⟨a :: as, .cons hask hseen⟩
      · exact Or.inr ⟨q, why, .there hask hrefused⟩

theorem Seen.not_refused {as : List α} (hseen : Seen ask now paths as) {path : Path}
    {why : OsError} : ¬ Refused ask now paths path why := by
  intro hrefused
  induction hseen with
  | nil => cases hrefused
  | cons hask _ ih =>
    cases hrefused with
    | here _ herror =>
      rw [hask] at herror
      cases herror
    | there _ hlater => exact ih hlater

theorem Seen.length_eq {as : List α} (hseen : Seen ask now paths as) :
    as.length = paths.length := by
  induction hseen with
  | nil => rfl
  | cons _ _ ih => rw [List.length_cons, List.length_cons, ih]

theorem Seen.unique {as bs : List α} (ha : Seen ask now paths as) (hb : Seen ask now paths bs) :
    as = bs := by
  induction ha generalizing bs with
  | nil =>
    cases hb
    rfl
  | cons hask _ ih =>
    cases hb with
    | cons hask' hb =>
      rw [hask] at hask'
      cases hask'
      rw [ih hb]

theorem Seen.ask_eq {as : List α} (hseen : Seen ask now paths as) {i : Nat} {path : Path} {a : α}
    (hpath : paths[i]? = some path) (ha : as[i]? = some a) : ask (now + i) path = .ok a := by
  induction hseen generalizing i with
  | nil => cases hpath
  | cons hask _ ih =>
    cases i with
    | zero =>
      cases hpath
      cases ha
      exact hask
    | succ i =>
      rw [List.getElem?_cons_succ] at hpath ha
      have := ih hpath ha
      rwa [Nat.add_assoc, Nat.add_comm 1 i] at this

theorem Seen.exists_answer {as : List α} (hseen : Seen ask now paths as) {i : Nat} {path : Path}
    (hpath : paths[i]? = some path) : ∃ a, as[i]? = some a ∧ ask (now + i) path = .ok a := by
  have hi : i < as.length := by
    rw [hseen.length_eq]
    exact (List.getElem?_eq_some_iff.mp hpath).1
  have ha : as[i]? = some as[i] := List.getElem?_eq_getElem hi
  exact ⟨as[i], ha, hseen.ask_eq hpath ha⟩

theorem Seen.move {as : List α} (hseen : Seen ask now paths as) {ask' : Nat → Path → Except OsError α}
    {start : Nat} (h : ∀ i path a, paths[i]? = some path → as[i]? = some a →
      ask (now + i) path = .ok a → ask' (start + i) path = .ok a) :
    Seen ask' start paths as := by
  induction hseen generalizing start with
  | nil => exact .nil start
  | @cons now path paths a as hask _ ih =>
    refine .cons (h 0 path a rfl rfl hask) (ih fun i q b hq hb hok => ?_)
    have := h (i + 1) q b hq hb
    rw [Nat.add_comm i 1, ← Nat.add_assoc, ← Nat.add_assoc] at this
    exact this hok

theorem Seen.append {qs : List Path} {as bs : List α} (ha : Seen ask now paths as)
    (hb : Seen ask (now + paths.length) qs bs) : Seen ask now (paths ++ qs) (as ++ bs) := by
  induction ha with
  | nil => exact hb
  | @cons now path paths a as hask _ ih =>
    refine .cons hask (ih ?_)
    rwa [List.length_cons, Nat.add_comm paths.length 1, ← Nat.add_assoc] at hb

theorem Refused.append {path : Path} {why : OsError} (h : Refused ask now paths path why)
    (qs : List Path) : Refused ask now (paths ++ qs) path why := by
  induction h with
  | here paths hask => exact .here (paths ++ qs) hask
  | there hask _ ih => exact .there hask ih

theorem Seen.append_refused {qs : List Path} {as : List α} (ha : Seen ask now paths as) {path : Path}
    {why : OsError} (h : Refused ask (now + paths.length) qs path why) :
    Refused ask now (paths ++ qs) path why := by
  induction ha with
  | nil => exact h
  | @cons now path paths a as hask _ ih =>
    refine .there hask (ih ?_)
    rwa [List.length_cons, Nat.add_comm paths.length 1, ← Nat.add_assoc] at h

end Asking

end DnsBlocklist
