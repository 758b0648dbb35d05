import Mathlib.Logic.Function.Basic
import Mathlib.Data.List.Basic

/-!
# Scripts that stop at the first failure

A command of a script under `set -e` leaves a state, and the script either goes on or ends there. The
state of a script that has ended is kept, since what is left on disk then matters as well.

* `Keeps.forEach`, `forEach_last` — what every round keeps, and what every round brings about
* `exists_forEach` — when a loop gets through
* `OnEntries.forEach_ok`, `OnEntries.forEach_error` — a loop whose rounds work on one entry each
* `forEach_onEntry_eq_ok` — a loop over the parts of a state
-/

namespace Libreboot.Infra.Script

/-- `error` stands for the end of the script. -/
abbrev Command (σ : Type) := σ → Except σ σ

variable {σ τ α : Type}

/-- The state that is left, whether the script goes on or not. -/
def left : Except σ σ → σ
  | .ok s => s
  | .error s => s

/-- A list of commands. -/
def both (first second : Command σ) : Command σ := fun s => (first s).bind second

/-- `for x in …; do …; done` -/
def forEach (body : α → Command σ) : List α → Command σ
  | [] => .ok
  | x :: xs => both (body x) (forEach body xs)

/-! ## What is kept -/

/-- What holds before a command holds after it, whether the script goes on or not. -/
def Keeps (P : σ → Prop) (command : Command σ) : Prop := ∀ s, P s → P (left (command s))

theorem Keeps.both {P : σ → Prop} {first second : Command σ} (hfirst : Keeps P first)
    (hsecond : Keeps P second) : Keeps P (both first second) := by
  intro s hs
  have hmid := hfirst s hs
  unfold Script.both
  cases hrun : first s with
  | error mid =>
    rw [hrun] at hmid
    exact hmid
  | ok mid =>
    rw [hrun] at hmid
    exact hsecond mid hmid

theorem Keeps.of_ok {P : σ → Prop} {command : Command σ} (h : Keeps P command) {s s' : σ}
    (hs : P s) (hrun : command s = .ok s') : P s' := by
  have hleft := h s hs
  rw [hrun] at hleft
  exact hleft

/-- **What every round keeps, the loop keeps,** also if it ends early. -/
theorem Keeps.forEach {P : σ → Prop} {body : α → Command σ} {xs : List α}
    (h : ∀ x ∈ xs, Keeps P (body x)) : Keeps P (forEach body xs) := by
  induction xs with
  | nil => exact fun _ hs => hs
  | cons x xs ih =>
    exact (h x List.mem_cons_self).both (ih fun y hy => h y (List.mem_cons_of_mem _ hy))

/-! ## Loops -/

section Loops

variable {body : α → Command σ} {s s' : σ}

theorem both_eq_ok {first second : Command σ} :
    both first second s = .ok s' ↔ ∃ mid, first s = .ok mid ∧ second mid = .ok s' := by
  unfold both
  cases first s with
  | ok mid => simp [Except.bind]
  | error mid => simp [Except.bind]

theorem both_eq_error {first second : Command σ} :
    both first second s = .error s' ↔
      first s = .error s' ∨ ∃ mid, first s = .ok mid ∧ second mid = .error s' := by
  unfold both
  cases first s with
  | ok mid => simp [Except.bind]
  | error mid => simp [Except.bind]

theorem forEach_append : ∀ (xs ys : List α) (s : σ),
    forEach body (xs ++ ys) s = (forEach body xs s).bind (forEach body ys)
  | [], _, _ => rfl
  | x :: xs, ys, s => by
    show (body x s).bind (forEach body (xs ++ ys))
      = ((body x s).bind (forEach body xs)).bind (forEach body ys)
    cases body x s with
    | error mid => rfl
    | ok mid => exact forEach_append xs ys mid

/-- If a loop gets through, every round has gone on. -/
theorem rounds_of_forEach {xs : List α} (h : forEach body xs s = .ok s') :
    ∀ x ∈ xs, ∃ u v, body x u = .ok v := by
  induction xs generalizing s with
  | nil => exact fun _ hx => absurd hx List.not_mem_nil
  | cons x xs ih =>
    obtain ⟨mid, hfirst, hloop⟩ := both_eq_ok.mp h
    exact List.forall_mem_cons.mpr ⟨⟨s, mid, hfirst⟩, ih hloop⟩

/-- What every round brings about holds after the last one. -/
theorem forEach_last {Q : σ → Prop} : ∀ {xs : List α} {s s' : σ}, xs ≠ [] →
    (∀ x ∈ xs, ∀ s s', body x s = .ok s' → Q s') → forEach body xs s = .ok s' → Q s'
  | [], _, _, hne, _, _ => absurd rfl hne
  | [x], _, _, _, h, hloop => by
    obtain ⟨mid, hx, hrest⟩ := both_eq_ok.mp hloop
    cases hrest
    exact h x List.mem_cons_self _ _ hx
  | x :: y :: xs, _, _, _, h, hloop => by
    obtain ⟨mid, -, hrest⟩ := both_eq_ok.mp hloop
    exact forEach_last (List.cons_ne_nil y xs) (fun z hz => h z (List.mem_cons_of_mem _ hz)) hrest

/--
**When a loop gets through,** if each round goes on or not whatever the rounds before have left, as
long as they have kept `P`.
-/
theorem exists_forEach {P : σ → Prop} {good : α → Prop} : ∀ {xs : List α} {s : σ},
    (∀ x ∈ xs, ∀ s, P s → ((∃ s', body x s = .ok s') ↔ good x)) →
    (∀ x ∈ xs, ∀ s s', P s → body x s = .ok s' → P s') → P s →
    ((∃ s', forEach body xs s = .ok s') ↔ ∀ x ∈ xs, good x)
  | [], s, _, _, _ => ⟨fun _ _ hx => absurd hx List.not_mem_nil, fun _ => ⟨s, rfl⟩⟩
  | x :: xs, s, hgood, hkept, hs => by
    have hx := hgood x List.mem_cons_self s hs
    have hrest : ∀ mid, body x s = .ok mid → ((∃ s', forEach body xs mid = .ok s') ↔
        ∀ y ∈ xs, good y) := fun mid hmid =>
      exists_forEach (fun y hy => hgood y (List.mem_cons_of_mem _ hy))
        (fun y hy => hkept y (List.mem_cons_of_mem _ hy))
        (hkept x List.mem_cons_self s mid hs hmid)
    rw [List.forall_mem_cons]
    constructor
    · rintro ⟨s', hloop⟩
      obtain ⟨mid, hfirst, hloop⟩ := both_eq_ok.mp hloop
      exact ⟨hx.mp ⟨mid, hfirst⟩, (hrest mid hfirst).mp ⟨s', hloop⟩⟩
    · rintro ⟨hfirst, hall⟩
      obtain ⟨mid, hmid⟩ := hx.mpr hfirst
      obtain ⟨s', hloop⟩ := (hrest mid hmid).mpr hall
      exact ⟨s', both_eq_ok.mpr ⟨mid, hmid, hloop⟩⟩

/-- A loop that only looks. -/
theorem forEach_tests {good : α → Prop} (h : ∀ x s s', body x s = .ok s' ↔ s' = s ∧ good x) :
    ∀ {xs : List α} {s s' : σ}, forEach body xs s = .ok s' ↔ s' = s ∧ ∀ x ∈ xs, good x
  | [], s, s' => by
    simp only [forEach, Except.ok.injEq, List.not_mem_nil, false_implies, implies_true, and_true]
    exact eq_comm
  | x :: xs, s, s' => by
    rw [forEach, both_eq_ok, List.forall_mem_cons]
    constructor
    · rintro ⟨mid, hfirst, hloop⟩
      obtain ⟨rfl, hx⟩ := (h x s mid).mp hfirst
      obtain ⟨rfl, hxs⟩ := (forEach_tests h).mp hloop
      exact ⟨rfl, hx, hxs⟩
    · rintro ⟨rfl, hx, hxs⟩
      exact ⟨s', (h x s' s').mpr ⟨rfl, hx⟩, (forEach_tests h).mpr ⟨rfl, hxs⟩⟩

end Loops

/-! ## Loops over entries -/

section Entries

variable {κ ω : Type}

/-- Either no entry comes twice, or a second round changes nothing. -/
def Repeatable (f : κ → Command ω) (xs : List κ) : Prop :=
  xs.Nodup ∨ ∀ x u v, f x u = .ok v → f x v = .ok v

theorem Repeatable.tail {f : κ → Command ω} {x : κ} {xs : List κ} (h : Repeatable f (x :: xs)) :
    Repeatable f xs :=
  h.imp_left fun hnodup => (List.nodup_cons.mp hnodup).2

/-- The second round of an entry. -/
theorem Repeatable.again {f : κ → Command ω} {x : κ} {xs : List κ} {u v : ω}
    (h : Repeatable f (x :: xs)) (hx : x ∈ xs) (hu : f x u = .ok v) : f x v = .ok v :=
  h.elim (fun hnodup => absurd hx (List.nodup_cons.mp hnodup).1) (fun hidem => hidem x u v hu)

/--
A round that does to the entry `x` what the command `f x` does. Entries that are `hidden` may change
on the way, and `kept` is what the rounds need of them.
-/
structure OnEntries (hidden : κ → Prop) (kept : (κ → ω) → Prop) (f : κ → Command ω)
    (body : κ → Command (κ → ω)) : Prop where
  goes_on : ∀ x s v, ¬ hidden x → kept s → f x (s x) = .ok v →
    ∃ s', body x s = .ok s' ∧ kept s' ∧ s' x = v ∧ ∀ y, ¬ hidden y → y ≠ x → s' y = s y
  ends : ∀ x s v, ¬ hidden x → kept s → f x (s x) = .error v →
    ∃ s', body x s = .error s' ∧ s' x = v ∧ ∀ y, ¬ hidden y → y ≠ x → s' y = s y

namespace OnEntries

variable {hidden : κ → Prop} {kept : (κ → ω) → Prop} {f : κ → Command ω}
  {body : κ → Command (κ → ω)}

/-- **A loop that goes on for every entry.** -/
theorem forEach_ok (h : OnEntries hidden kept f body) : ∀ {xs : List κ} {s : κ → ω},
    Repeatable f xs → (∀ x ∈ xs, ¬ hidden x) → kept s → (∀ x ∈ xs, ∃ v, f x (s x) = .ok v) →
      ∃ s', forEach body xs s = .ok s' ∧ kept s' ∧ (∀ x ∈ xs, f x (s x) = .ok (s' x))
        ∧ ∀ y, ¬ hidden y → y ∉ xs → s' y = s y
  | [], s, _, _, hs, _ => ⟨s, rfl, hs, fun _ hx => absurd hx List.not_mem_nil, fun _ _ _ => rfl⟩
  | x :: xs, s, hrepeat, hvisible, hs, hok => by
    obtain ⟨v, hv⟩ := hok x List.mem_cons_self
    obtain ⟨mid, hbody, hmid, hself, hothers⟩ :=
      h.goes_on x s v (hvisible x List.mem_cons_self) hs hv
    have hvisible' : ∀ y ∈ xs, ¬ hidden y := fun y hy => hvisible y (List.mem_cons_of_mem _ hy)
    -- the first entry may come again, and then it is left as it is
    have hagain : ∀ y ∈ xs, f y (mid y) = f y (s y) := by
      intro y hy
      by_cases heq : y = x
      · subst heq
        rw [hself, hrepeat.again hy hv, hv]
      · rw [hothers y (hvisible' y hy) heq]
    obtain ⟨s', hloop, hs', hwritten, hframe⟩ := forEach_ok h hrepeat.tail hvisible' hmid (by
      intro y hy
      rw [hagain y hy]
      exact hok y (List.mem_cons_of_mem _ hy))
    refine ⟨s', both_eq_ok.mpr ⟨mid, hbody, hloop⟩, hs', ?_, ?_⟩
    · intro y hy
      by_cases hmem : y ∈ xs
      · rw [← hagain y hmem]
        exact hwritten y hmem
      · have heq : y = x := (List.mem_cons.mp hy).resolve_right hmem
        subst heq
        rw [hv, hframe y (hvisible y List.mem_cons_self) hmem, hself]
    · intro y hy hmem
      rw [List.mem_cons, not_or] at hmem
      rw [hframe y hy hmem.2, hothers y hy hmem.1]

/-- **A loop that ends at an entry,** with the entries before done. -/
theorem forEach_error (h : OnEntries hidden kept f body) {before after : List κ} {x : κ}
    {s : κ → ω} {v : ω} (hrepeat : Repeatable f before)
    (hvisible : ∀ y ∈ before ++ x :: after, ¬ hidden y) (hs : kept s) (hx : x ∉ before)
    (hok : ∀ y ∈ before, ∃ v, f y (s y) = .ok v) (herror : f x (s x) = .error v) :
    ∃ s', forEach body (before ++ x :: after) s = .error s'
      ∧ (∀ y ∈ before, f y (s y) = .ok (s' y)) ∧ s' x = v
      ∧ ∀ y, ¬ hidden y → y ∉ before → y ≠ x → s' y = s y := by
  have hvisible' : ∀ y ∈ before, ¬ hidden y := fun y hy => hvisible y (List.mem_append_left _ hy)
  obtain ⟨mid, hloop, hmid, hwritten, hframe⟩ := forEach_ok h hrepeat hvisible' hs hok
  have hxv : ¬ hidden x := hvisible x (List.mem_append_right _ List.mem_cons_self)
  obtain ⟨s', hbody, hself, hothers⟩ := h.ends x mid v hxv hmid (by rw [hframe x hxv hx, herror])
  refine ⟨s', ?_, ?_, hself, ?_⟩
  · rw [forEach_append, hloop]
    show forEach body (x :: after) mid = .error s'
    exact both_eq_error.mpr (.inl hbody)
  · intro y hy
    rw [hothers y (hvisible' y hy) fun heq => hx (heq ▸ hy)]
    exact hwritten y hy
  · intro y hy hmem hne
    rw [hothers y hy hne, hframe y hy hmem]

/-- Either every entry is done, or there is a first one that ends the loop. -/
theorem ok_or_error (f : κ → Command ω) (xs : List κ) (s : κ → ω) :
    (∀ x ∈ xs, ∃ v, f x (s x) = .ok v)
      ∨ ∃ before x after v, xs = before ++ x :: after ∧ x ∉ before
        ∧ (∀ y ∈ before, ∃ v, f y (s y) = .ok v) ∧ f x (s x) = .error v := by
  induction xs with
  | nil => exact .inl fun _ hx => absurd hx List.not_mem_nil
  | cons x xs ih =>
    cases hx : f x (s x) with
    | error v => exact .inr ⟨[], x, xs, v, rfl, List.not_mem_nil, nofun, hx⟩
    | ok v =>
      rcases ih with hall | ⟨before, y, after, u, rfl, hy, hbefore, herror⟩
      · exact .inl (List.forall_mem_cons.mpr ⟨⟨v, hx⟩, hall⟩)
      · have hne : y ≠ x := by
          rintro rfl
          rw [hx] at herror
          cases herror
        have hnot : y ∉ x :: before := by
          rw [List.mem_cons, not_or]
          exact ⟨hne, hy⟩
        exact .inr ⟨x :: before, y, after, u, rfl, hnot,
          List.forall_mem_cons.mpr ⟨⟨v, hx⟩, hbefore⟩, herror⟩

/-- **When the loop goes on.** -/
theorem forEach_eq_ok_iff (h : OnEntries hidden kept f body) {xs : List κ} {s : κ → ω}
    (hrepeat : ∀ ys, ys <+: xs → Repeatable f ys) (hvisible : ∀ x ∈ xs, ¬ hidden x) (hs : kept s) :
    (∃ s', forEach body xs s = .ok s') ↔ ∀ x ∈ xs, ∃ v, f x (s x) = .ok v := by
  constructor
  · rintro ⟨s', hloop⟩
    rcases ok_or_error f xs s with hall | ⟨before, x, after, v, rfl, hx, hbefore, herror⟩
    · exact hall
    · obtain ⟨s'', hended, -⟩ := h.forEach_error (hrepeat _ (List.prefix_append _ _)) hvisible hs hx
        hbefore herror
      rw [hloop] at hended
      cases hended
  · intro hall
    obtain ⟨s', hloop, -⟩ := h.forEach_ok (hrepeat xs (List.prefix_refl xs)) hvisible hs hall
    exact ⟨s', hloop⟩

end OnEntries

/-! ## Loops over parts -/

/-- A command about a part that may be missing. -/
def ifPresent (command : Command ω) : Command (Option ω)
  | none => .ok none
  | some v =>
    match command v with
    | .ok v => .ok (some v)
    | .error v => .error (some v)

theorem ifPresent_eq_ok {command : Command ω} {u v : Option ω} :
    ifPresent command u = .ok v ↔
      (u = none ∧ v = none) ∨ ∃ w w', u = some w ∧ command w = .ok w' ∧ v = some w' := by
  cases u with
  | none => simp [ifPresent, eq_comm]
  | some w =>
    cases hcommand : command w with
    | ok w' => simp [ifPresent, hcommand, eq_comm]
    | error w' => simp [ifPresent, hcommand]

/-- A command about a part of the state. -/
def onPart (get : σ → τ) (set : τ → σ → σ) (command : Command τ) : Command σ := fun s =>
  match command (get s) with
  | .ok v => .ok (set v s)
  | .error v => .error (set v s)

theorem onPart_eq_ok {get : σ → τ} {set : τ → σ → σ} {command : Command τ} {s s' : σ} :
    onPart get set command s = .ok s' ↔ ∃ v, command (get s) = .ok v ∧ s' = set v s := by
  unfold onPart
  cases command (get s) with
  | ok v => simp [eq_comm]
  | error v => simp

theorem keeps_onPart {P : σ → Prop} {get : σ → τ} {set : τ → σ → σ} (command : Command τ)
    (h : ∀ v s, P s → P (set v s)) : Keeps P (onPart get set command) := by
  intro s hs
  unfold onPart
  cases command (get s) with
  | ok v => exact h v s hs
  | error v => exact h v s hs

variable [DecidableEq κ]

/-- A command about one entry. -/
def onEntry (x : κ) (command : Command ω) : Command (κ → ω) := fun s =>
  match command (s x) with
  | .ok v => .ok (Function.update s x v)
  | .error v => .error (Function.update s x v)

theorem onEntry_eq_ok {x : κ} {command : Command ω} {s s' : κ → ω} :
    onEntry x command s = .ok s' ↔
      command (s x) = .ok (s' x) ∧ ∀ y, y ≠ x → s' y = s y := by
  unfold onEntry
  cases hcommand : command (s x) with
  | error v => simp
  | ok v =>
    simp only [Except.ok.injEq]
    constructor
    · rintro rfl
      rw [Function.update_self]
      exact ⟨rfl, fun y hne => Function.update_of_ne hne _ _⟩
    · rintro ⟨rfl, hframe⟩
      funext y
      by_cases hne : y = x
      · rw [hne, Function.update_self]
      · rw [Function.update_of_ne hne, hframe y hne]

/-- **A loop over different entries** does to each of them what its command does. -/
theorem forEach_onEntry_eq_ok {key : α → κ} {command : α → Command ω} :
    ∀ {xs : List α} {s s' : κ → ω}, (xs.map key).Nodup →
      (forEach (fun x => onEntry (key x) (command x)) xs s = .ok s' ↔
        (∀ x ∈ xs, command x (s (key x)) = .ok (s' (key x)))
          ∧ ∀ y, y ∉ xs.map key → s' y = s y)
  | [], s, s', _ => by
    simp only [forEach, Except.ok.injEq, List.not_mem_nil, false_implies, implies_true, true_and,
      List.map_nil, not_false_eq_true, true_implies]
    exact ⟨fun h _ => by rw [h], fun h => (funext h).symm⟩
  | x :: xs, s, s', hnodup => by
    rw [List.map_cons, List.nodup_cons] at hnodup
    obtain ⟨hx, hrest⟩ := hnodup
    have hkey : ∀ y ∈ xs, key y ≠ key x := fun y hy heq =>
      hx (heq ▸ List.mem_map_of_mem hy)
    rw [forEach, both_eq_ok]
    constructor
    · rintro ⟨mid, hfirst, hloop⟩
      obtain ⟨hself, hothers⟩ := onEntry_eq_ok.mp hfirst
      obtain ⟨hall, hframe⟩ := (forEach_onEntry_eq_ok hrest).mp hloop
      refine ⟨List.forall_mem_cons.mpr ⟨?_, fun y hy => ?_⟩, fun y hy => ?_⟩
      · rw [hframe _ hx, hself]
      · rw [← hothers _ (hkey y hy), hall y hy]
      · rw [List.map_cons, List.mem_cons, not_or] at hy
        rw [hframe y hy.2, hothers y hy.1]
    · rintro ⟨hall, hframe⟩
      obtain ⟨hfirst, hall⟩ := List.forall_mem_cons.mp hall
      refine ⟨Function.update s (key x) (s' (key x)), onEntry_eq_ok.mpr ⟨?_, fun y hne => ?_⟩,
        (forEach_onEntry_eq_ok hrest).mpr ⟨fun y hy => ?_, fun y hy => ?_⟩⟩
      · rw [Function.update_self, hfirst]
      · exact Function.update_of_ne hne _ _
      · rw [Function.update_of_ne (hkey y hy), hall y hy]
      · by_cases hne : y = key x
        · rw [hne, Function.update_self]
        · rw [Function.update_of_ne hne]
          refine hframe y ?_
          rw [List.map_cons, List.mem_cons, not_or]
          exact ⟨hne, hy⟩

/-- It gets through if all commands do. -/
theorem exists_forEach_onEntry {key : α → κ} {command : α → Command ω} :
    ∀ {xs : List α} {s : κ → ω}, (xs.map key).Nodup →
      ((∃ s', forEach (fun x => onEntry (key x) (command x)) xs s = .ok s') ↔
        ∀ x ∈ xs, ∃ v, command x (s (key x)) = .ok v)
  | [], s, _ => ⟨fun _ _ hx => absurd hx List.not_mem_nil, fun _ => ⟨s, rfl⟩⟩
  | x :: xs, s, hnodup => by
    constructor
    · rintro ⟨s', hloop⟩ y hy
      exact ⟨_, ((forEach_onEntry_eq_ok hnodup).mp hloop).1 y hy⟩
    · intro hall
      obtain ⟨⟨v, hv⟩, hothers⟩ := List.forall_mem_cons.mp hall
      rw [List.map_cons, List.nodup_cons] at hnodup
      have hmid : onEntry (key x) (command x) s = .ok (Function.update s (key x) v) :=
        onEntry_eq_ok.mpr ⟨by rw [Function.update_self, hv],
          fun y hne => Function.update_of_ne hne _ _⟩
      have hrest : ∀ y ∈ xs, ∃ u, command y (Function.update s (key x) v (key y)) = .ok u := by
        intro y hy
        have hne : key y ≠ key x := fun heq => hnodup.1 (heq ▸ List.mem_map_of_mem hy)
        rw [Function.update_of_ne hne]
        exact hothers y hy
      obtain ⟨s', hloop⟩ := (exists_forEach_onEntry hnodup.2).mpr hrest
      exact ⟨s', both_eq_ok.mpr ⟨_, hmid, hloop⟩⟩

/-- A loop in a loop is a loop over pairs. -/
theorem forEach_flatMap {β : Type} {body : β → Command σ} {f : α → List β} :
    ∀ (xs : List α) (s : σ),
      forEach (fun x => forEach body (f x)) xs s = forEach body (xs.flatMap f) s
  | [], _ => rfl
  | x :: xs, s => by
    rw [List.flatMap_cons, forEach_append]
    show (forEach body (f x) s).bind _ = _
    cases forEach body (f x) s with
    | error mid => rfl
    | ok mid => exact forEach_flatMap xs mid

end Entries

end Libreboot.Infra.Script
