import DnsBlocklist.Zone.Reload
import DnsBlocklist.Proofs.Trace

/-! Machines on which files look alike. A load learns of a machine only what the files of its zones
answer, so it comes to the same on two machines where they answer the same. -/

namespace DnsBlocklist
set_option autoImplicit false

section

variable {σ τ : Type}

/-- From states that stand in a relation two computations come to the same, and leave such states. -/
def Agree {α : Type} (R : σ → τ → Prop) (x : StateM σ α) (y : StateM τ α) : Prop :=
  ∀ s t, R s t → ∃ a s' t', x.run s = (a, s') ∧ y.run t = (a, t') ∧ R s' t'

namespace Agree

variable {R : σ → τ → Prop} {α β : Type}

theorem ret (a : α) : Agree R (pure a) (pure a) := by
  intro s t hst
  exact ⟨a, s, t, rfl, rfl, hst⟩

theorem bind {x : StateM σ α} {y : StateM τ α} {f : α → StateM σ β} {g : α → StateM τ β}
    (hxy : Agree R x y) (hfg : ∀ a, Agree R (f a) (g a)) : Agree R (x >>= f) (y >>= g) := by
  intro s t hst
  obtain ⟨a, s', t', hx, hy, hst'⟩ := hxy s t hst
  rw [run_bind hx, run_bind hy]
  exact hfg a s' t' hst'

end Agree

/-- Files at some paths that answer the same on two machines that stand in a relation. -/
structure DataFiles.Alike (files : DataFiles (StateM σ)) (others : DataFiles (StateM τ))
    (R : σ → τ → Prop) (paths : List Path) : Prop where
  state : ∀ path ∈ paths, Agree R (files.state path) (others.state path)
  read : ∀ path ∈ paths, Agree R (files.read path) (others.read path)

variable {files : DataFiles (StateM σ)} {others : DataFiles (StateM τ)} {R : σ → τ → Prop}

theorem DataFiles.Alike.mono {paths some_ : List Path} (h : files.Alike others R paths)
    (hsub : ∀ path ∈ some_, path ∈ paths) : files.Alike others R some_ :=
  ⟨fun path hpath => h.state path (hsub path hpath), fun path hpath => h.read path (hsub path hpath)⟩

namespace ZoneSet

theorem agree_stamps {paths : List Path} (h : files.Alike others R paths) :
    Agree R (stamps files paths) (stamps others paths) := by
  induction paths with
  | nil => exact .ret _
  | cons path paths ih =>
    have hrest := ih (h.mono fun _ => List.mem_cons_of_mem path)
    refine (h.state path List.mem_cons_self).bind fun answer => ?_
    cases answer with
    | error why => exact .ret _
    | ok state =>
      refine hrest.bind fun rest => ?_
      cases rest <;> exact .ret _

theorem agree_loadFiles {paths : List Path} (h : files.Alike others R paths) (hostBits : HostBits)
    (zone : Name) (s : IpSet) : Agree R (loadFiles files hostBits zone s paths)
      (loadFiles others hostBits zone s paths) := by
  induction paths generalizing s with
  | nil => exact .ret _
  | cons path paths ih =>
    refine (h.read path List.mem_cons_self).bind fun answer => ?_
    cases answer with
    | error why => exact .ret _
    | ok bytes =>
      refine (ih (h.mono fun _ => List.mem_cons_of_mem path) _).bind fun loaded => ?_
      dsimp only
      split <;> exact .ret _

theorem agree_assemble {phase : Phase} {hostBits : HostBits} {ds : List Declaration}
    (h : files.Alike others R (ds.flatMap (·.files))) :
    Agree R (assemble phase (loadZone files hostBits) ds)
      (assemble phase (loadZone others hostBits) ds) := by
  induction ds with
  | nil => exact .ret _
  | cons d ds ih =>
    rw [List.flatMap_cons] at h
    have hrest := ih (h.mono fun _ => List.mem_append_right _)
    refine (agree_loadFiles (h.mono fun _ => List.mem_append_left _) hostBits _ _).bind
      fun loaded => ?_
    dsimp only
    split
    · exact .ret _
    · exact hrest.bind fun zones => .ret _

variable {z : ZoneSet}

theorem agree_refresh (h : files.Alike others R z.paths) (phase : Phase) (current : Snapshot) :
    Agree R (z.refresh files phase current) (z.refresh others phase current) := by
  refine (agree_stamps h).bind fun answer => ?_
  cases answer with
  | error why => exact .ret _
  | ok stamps =>
    dsimp only
    split
    · exact .ret _
    · refine (agree_assemble h).bind fun loaded => ?_
      rcases loaded with ⟨zones, skipped⟩
      cases zones <;> exact .ret _

theorem agree_reload (h : files.Alike others R z.paths) (phase : Phase) (current : Snapshot) :
    Agree R (z.reload files phase current) (z.reload others phase current) :=
  (agree_refresh h phase current).bind fun _ => .ret _

end ZoneSet

end

end DnsBlocklist
