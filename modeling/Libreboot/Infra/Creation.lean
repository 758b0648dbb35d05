import Libreboot.Infra.Script

/-!
# Loops that create entries

Each round of such a loop makes one entry of a table, which may be there already: then the round leaves it
alone, ends the script, or replaces it.

* `forEach_ifAbsent_eq_ok` — the first round for an entry creates it
* `CreatesEntries.exists_forEach`, `CreatesEntries.forEach_eq_ok` — an entry must not be there
* `FillsEntries.forEach` — the last round for an entry fills it
-/

namespace Libreboot.Infra.Script

variable {σ α κ ω : Type} [DecidableEq κ]

/-! ## Entries that are left alone -/

section Absent

/-- A command for an entry that is not there yet. -/
def ifAbsent (command : Command (Option ω)) : Command (Option ω)
  | none => command none
  | some v => .ok (some v)

theorem onEntry_ifAbsent_of_some {x : κ} {command : Command (Option ω)} {s s' : κ → Option ω} {v : ω}
    (hx : s x = some v) : onEntry x (ifAbsent command) s = .ok s' ↔ s' = s := by
  rw [onEntry_eq_ok, hx, ifAbsent]
  constructor
  · rintro ⟨hthis, hframe⟩
    funext y
    by_cases hne : y = x
    · rw [hne, hx, Except.ok.inj hthis]
    · exact hframe y hne
  · rintro rfl
    exact ⟨by rw [hx], fun _ _ => rfl⟩

theorem onEntry_ifAbsent_of_none {x : κ} {command : Command (Option ω)} {s s' : κ → Option ω}
    (hx : s x = none) : onEntry x (ifAbsent command) s = .ok s' ↔
      ∃ v, command none = .ok v ∧ s' = Function.update s x v := by
  rw [onEntry_eq_ok, hx, ifAbsent]
  constructor
  · rintro ⟨hthis, hframe⟩
    exact ⟨s' x, hthis, Function.eq_update_iff.mpr ⟨rfl, hframe⟩⟩
  · rintro ⟨v, hthis, rfl⟩
    rw [Function.update_self]
    exact ⟨hthis, fun _ hne => Function.update_of_ne hne _ _⟩

/-- **The first one of each entry** creates it, and the others find it there. -/
theorem forEach_ifAbsent_eq_ok {key : α → κ} {command : α → Command (Option ω)} {content : α → ω}
    {good : α → Prop} (h : ∀ x v, command x none = .ok v ↔ good x ∧ v = some (content x)) :
    ∀ {xs : List α} {s s' : κ → Option ω},
      forEach (fun x => onEntry (key x) (ifAbsent (command x))) xs s = .ok s' ↔
        (∀ k x, s k = none → xs.find? (fun y => key y = k) = some x → good x)
          ∧ ∀ k, s' k = (s k).or ((xs.find? fun y => key y = k).map content)
  | [], s, s' => by
    simp only [forEach, Except.ok.injEq, List.find?_nil, reduceCtorEq, false_implies, implies_true,
      true_and, Option.map_none, Option.or_none]
    exact ⟨fun heq _ => by rw [heq], fun heq => (funext heq).symm⟩
  | x :: xs, s, s' => by
    have hself : (x :: xs).find? (fun y => key y = key x) = some x := by simp
    have hother : ∀ k, k ≠ key x →
        (x :: xs).find? (fun y => key y = k) = xs.find? (fun y => key y = k) := fun k hne =>
      List.find?_cons_of_neg (by simpa using hne.symm)
    rw [forEach, both_eq_ok]
    cases hx : s (key x) with
    | some v =>
      -- this round finds the entry there
      simp only [onEntry_ifAbsent_of_some hx, exists_eq_left, forEach_ifAbsent_eq_ok h]
      refine and_congr (forall_congr' fun k => ?_) (forall_congr' fun k => ?_)
      · by_cases hk : k = key x
        · simp [hk, hx]
        · rw [hother k hk]
      · by_cases hk : k = key x
        · simp [hk, hx]
        · rw [hother k hk]
    | none =>
      have hlater : ∀ k, (Function.update s (key x) (some (content x)) k).or
          ((xs.find? fun y => key y = k).map content)
            = (s k).or (((x :: xs).find? fun y => key y = k).map content) := by
        intro k
        by_cases hk : k = key x
        · rw [hk, Function.update_self, hx, hself]
          rfl
        · rw [Function.update_of_ne hk, hother k hk]
      constructor
      · rintro ⟨_, hfirst, hloop⟩
        obtain ⟨_, hcommand, rfl⟩ := (onEntry_ifAbsent_of_none hx).mp hfirst
        obtain ⟨hgood, rfl⟩ := (h x _).mp hcommand
        obtain ⟨hrest, hs'⟩ := (forEach_ifAbsent_eq_ok h).mp hloop
        refine ⟨fun k y hk hy => ?_, fun k => (hs' k).trans (hlater k)⟩
        by_cases heq : k = key x
        · rw [heq, hself] at hy
          exact Option.some.inj hy ▸ hgood
        · rw [hother k heq] at hy
          exact hrest k y (by rw [Function.update_of_ne heq, hk]) hy
      · rintro ⟨hgood, hs'⟩
        have hfirst : onEntry (key x) (ifAbsent (command x)) s
            = .ok (Function.update s (key x) (some (content x))) :=
          (onEntry_ifAbsent_of_none hx).mpr ⟨_, (h x _).mpr ⟨hgood (key x) x hx hself, rfl⟩, rfl⟩
        refine ⟨_, hfirst, (forEach_ifAbsent_eq_ok h).mpr
          ⟨fun k y hk hy => ?_, fun k => (hs' k).trans (hlater k).symm⟩⟩
        by_cases heq : k = key x
        · rw [heq, Function.update_self] at hk
          cases hk
        · rw [Function.update_of_ne heq] at hk
          exact hgood k y hk (by rw [hother k heq, hy])

end Absent

/-! ## Entries that must not be there -/

section Creates

variable {P : σ → Prop} {view : σ → κ → Option ω} {body : α → Command σ}
  {key : α → κ} {content : α → ω} {good : α → Prop}

/-- Each round creates one entry of what is seen of the state, or ends if the entry is there. -/
structure CreatesEntries (P : σ → Prop) (view : σ → κ → Option ω) (key : α → κ) (content : α → ω)
    (good : α → Prop) (body : α → Command σ) : Prop where
  goes_on : ∀ x s, P s → ((∃ s', body x s = .ok s') ↔ view s (key x) = none ∧ good x)
  creates : ∀ x s s', P s → body x s = .ok s' →
    P s' ∧ view s' = Function.update (view s) (key x) (some (content x))

/-- **The loop gets through** exactly if all entries are new. -/
theorem CreatesEntries.exists_forEach (h : CreatesEntries P view key content good body) :
    ∀ {xs : List α} {s : σ}, P s → ((∃ s', forEach body xs s = .ok s') ↔
      (∀ x ∈ xs, view s (key x) = none ∧ good x) ∧ (xs.map key).Nodup)
  | [], s, _ => ⟨fun _ => ⟨fun _ hx => absurd hx List.not_mem_nil, List.nodup_nil⟩, fun _ => ⟨s, rfl⟩⟩
  | x :: xs, s, hs => by
    have hrest : ∀ mid, body x s = .ok mid → ((∃ s', forEach body xs mid = .ok s') ↔
        (∀ y ∈ xs, (key y ≠ key x ∧ view s (key y) = none) ∧ good y) ∧ (xs.map key).Nodup) := by
      intro mid hmid
      obtain ⟨hkept, hview⟩ := h.creates x s mid hs hmid
      rw [h.exists_forEach hkept, hview]
      refine and_congr_left fun _ => forall₂_congr fun y _ => and_congr_left fun _ => ?_
      by_cases heq : key y = key x
      · rw [heq, Function.update_self]
        exact iff_of_false (Option.some_ne_none _) fun hne => hne.1 rfl
      · rw [Function.update_of_ne heq]
        exact (and_iff_right heq).symm
    rw [List.forall_mem_cons, List.map_cons, List.nodup_cons, List.mem_map]
    constructor
    · rintro ⟨s', hloop⟩
      obtain ⟨mid, hfirst, hloop⟩ := both_eq_ok.mp hloop
      obtain ⟨hothers, hnodup⟩ := (hrest mid hfirst).mp ⟨s', hloop⟩
      refine ⟨⟨(h.goes_on x s hs).mp ⟨mid, hfirst⟩, fun y hy => ⟨(hothers y hy).1.2, (hothers y hy).2⟩⟩,
        fun ⟨y, hy, heq⟩ => (hothers y hy).1.1 heq, hnodup⟩
    · rintro ⟨⟨hx, hothers⟩, hnew, hnodup⟩
      obtain ⟨mid, hfirst⟩ := (h.goes_on x s hs).mpr hx
      obtain ⟨s', hloop⟩ := (hrest mid hfirst).mpr ⟨fun y hy =>
        ⟨⟨fun heq => hnew ⟨y, hy, heq⟩, (hothers y hy).1⟩, (hothers y hy).2⟩, hnodup⟩
      exact ⟨s', both_eq_ok.mpr ⟨mid, hfirst, hloop⟩⟩

/-- **What it leaves.** -/
theorem CreatesEntries.forEach_eq_ok (h : CreatesEntries P view key content good body) :
    ∀ {xs : List α} {s s' : σ}, P s → forEach body xs s = .ok s' →
      P s' ∧ (∀ x ∈ xs, view s' (key x) = some (content x))
        ∧ ∀ k, k ∉ xs.map key → view s' k = view s k
  | [], _, _, hs, hrun => by
    obtain rfl := Except.ok.inj hrun
    exact ⟨hs, fun _ hx => absurd hx List.not_mem_nil, fun _ _ => rfl⟩
  | x :: xs, s, s', hs, hrun => by
    have hnew := ((h.exists_forEach hs).mp ⟨s', hrun⟩).2
    rw [List.map_cons, List.nodup_cons] at hnew
    obtain ⟨mid, hfirst, hloop⟩ := both_eq_ok.mp hrun
    obtain ⟨hmid, hview⟩ := h.creates x s mid hs hfirst
    obtain ⟨hkept, hcreated, hframe⟩ := h.forEach_eq_ok hmid hloop
    refine ⟨hkept, List.forall_mem_cons.mpr ⟨?_, hcreated⟩, fun k hk => ?_⟩
    · rw [hframe _ hnew.1, hview, Function.update_self]
    · rw [List.map_cons, List.mem_cons, not_or] at hk
      rw [hframe k hk.2, hview, Function.update_of_ne hk.1]

end Creates

/-! ## Entries that are replaced -/

section Fills

variable {P : σ → Prop} {view : σ → κ → Option ω}
  {built : κ → ω → Prop} {wanted : κ → Prop} {body : κ → Command σ}

/-- Each round fills its own entry, unless it is passed over. An old entry is replaced. -/
structure FillsEntries (P : σ → Prop) (view : σ → κ → Option ω) (built : κ → ω → Prop)
    (wanted : κ → Prop) (body : κ → Command σ) : Prop where
  kept : ∀ k s s', P s → body k s = .ok s' → P s'
  fills : ∀ k s s', P s → wanted k → body k s = .ok s' →
    ∃ v, built k v ∧ view s' = Function.update (view s) k (some v)
  passes : ∀ k s s', P s → ¬ wanted k → body k s = .ok s' → view s' = view s

/-- **What the loop leaves.** -/
theorem FillsEntries.forEach (h : FillsEntries P view built wanted body) :
    ∀ {ks : List κ} {s s' : σ}, P s → forEach body ks s = .ok s' →
      P s' ∧ (∀ k ∈ ks, wanted k → ∃ v, view s' k = some v ∧ built k v)
        ∧ ∀ k, k ∉ ks ∨ ¬ wanted k → view s' k = view s k
  | [], _, _, hs, hrun => by
    obtain rfl := Except.ok.inj hrun
    exact ⟨hs, fun _ hk => absurd hk List.not_mem_nil, fun _ _ => rfl⟩
  | k :: ks, s, s', hs, hrun => by
    obtain ⟨mid, hfirst, hloop⟩ := both_eq_ok.mp hrun
    obtain ⟨hkept, hfilled, hframe⟩ := h.forEach (h.kept k s mid hs hfirst) hloop
    have htail : ∀ other, other ∉ k :: ks ∨ ¬ wanted other → other ∉ ks ∨ ¬ wanted other :=
      fun other hother => hother.imp_left fun hmem hin => hmem (List.mem_cons_of_mem _ hin)
    by_cases hwanted : wanted k
    · obtain ⟨v, hv, hview⟩ := h.fills k s mid hs hwanted hfirst
      refine ⟨hkept, List.forall_mem_cons.mpr ⟨fun _ => ?_, hfilled⟩, fun other hother => ?_⟩
      · -- it may come again
        by_cases hmem : k ∈ ks
        · exact hfilled k hmem hwanted
        · rw [hframe k (.inl hmem), hview, Function.update_self]
          exact ⟨v, rfl, hv⟩
      · have hne : other ≠ k := by
          rintro rfl
          rcases hother with hmem | hnot
          · exact hmem List.mem_cons_self
          · exact hnot hwanted
        rw [hframe other (htail other hother), hview, Function.update_of_ne hne]
    · refine ⟨hkept, List.forall_mem_cons.mpr ⟨fun hk => absurd hk hwanted, hfilled⟩,
        fun other hother => ?_⟩
      rw [hframe other (htail other hother), h.passes k s mid hs hwanted hfirst]

end Fills

end Libreboot.Infra.Script
