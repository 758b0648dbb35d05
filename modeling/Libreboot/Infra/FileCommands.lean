import Libreboot.Infra.Conditions

/-!
# Scripts that write files

The state is a table of entries that may be missing, such as the files of a directory. The commands
write, copy, rename and remove one entry.

* `Touches` — what a command changes at most, whether the script goes on or not
* `forEach_puts` — a loop that writes one entry for each word
-/

namespace Libreboot.Infra.Script

variable {κ ω α : Type}

/-- A table of entries. -/
abbrev Entries (κ ω : Type) := κ → Option ω

/-! ## What is touched -/

/-- Only these entries change, also if the script ends. -/
def Touches (names : κ → Prop) (command : Command (Entries κ ω)) : Prop :=
  ∀ s name, ¬ names name → left (command s) name = s name

section Touches

variable {names names' : κ → Prop} {first second : Command (Entries κ ω)}

theorem Touches.mono (h : Touches names first) (hsub : ∀ name, names name → names' name) :
    Touches names' first :=
  fun s name hname => h s name fun hmem => hname (hsub name hmem)

theorem Touches.both (hfirst : Touches names first) (hsecond : Touches names second) :
    Touches names (both first second) := by
  intro s name hname
  exact Keeps.both (P := fun s' => s' name = s name)
    (fun s' hs' => (hfirst s' name hname).trans hs')
    (fun s' hs' => (hsecond s' name hname).trans hs') s rfl

theorem Touches.forEach {body : α → Command (Entries κ ω)} {xs : List α}
    (h : ∀ x ∈ xs, Touches names (body x)) : Touches names (forEach body xs) := by
  intro s name hname
  exact Keeps.forEach (P := fun s' => s' name = s name)
    (fun x hx s' hs' => (h x hx s' name hname).trans hs') s rfl

/-- A run that goes on keeps what the command does not touch. -/
theorem Touches.of_ok {s s' : Entries κ ω} (h : Touches names first) (hrun : first s = .ok s')
    {name : κ} (hname : ¬ names name) : s' name = s name := by
  have hkeep := h s name hname
  rw [hrun] at hkeep
  exact hkeep

end Touches

/-! ## The commands -/

/-- `rm -f`, with a pattern. -/
def removeWhere (p : κ → Bool) : Command (Entries κ ω) := fun s =>
  .ok fun name => if p name then none else s name

theorem touches_removeWhere (p : κ → Bool) :
    Touches (fun name => p name = true) (removeWhere p : Command (Entries κ ω)) := by
  intro s name hname
  show (if p name = true then none else s name) = s name
  rw [if_neg hname]

variable [DecidableEq κ]

/-- `… > name`. The script ends if there is nothing to be written. -/
def put (name : κ) (content : Option ω) : Command (Entries κ ω) := fun s =>
  match content with
  | none => .error s
  | some v => .ok (Function.update s name (some v))

/-- `cp source target` -/
def cp (source target : κ) : Command (Entries κ ω) := fun s => put target (s source) s

/-- `rm -f name` -/
def rm (name : κ) : Command (Entries κ ω) := fun s => .ok (Function.update s name none)

/-- `mv source target` -/
def mv (source target : κ) : Command (Entries κ ω) := both (cp source target) (rm source)

/-- A command that rewrites an entry. The script ends if the entry is missing or this fails. -/
def rewrite (name : κ) (f : ω → Option ω) : Command (Entries κ ω) := fun s =>
  put name ((s name).bind f) s

theorem touches_put (name : κ) (content : Option ω) :
    Touches (fun x => x = name) (put name content) := by
  intro s x hx
  cases content with
  | none => rfl
  | some v => exact Function.update_of_ne hx _ _

theorem touches_cp (source target : κ) :
    Touches (fun x => x = target) (cp source target : Command (Entries κ ω)) :=
  fun s x hx => touches_put target (s source) s x hx

theorem touches_rm (name : κ) : Touches (fun x => x = name) (rm name : Command (Entries κ ω)) :=
  fun _ _ hx => Function.update_of_ne hx _ _

theorem touches_mv (source target : κ) :
    Touches (fun x => x = source ∨ x = target) (mv source target : Command (Entries κ ω)) :=
  ((touches_cp source target).mono fun _ => Or.inr).both
    ((touches_rm source).mono fun _ => Or.inl)

theorem touches_rewrite (name : κ) (f : ω → Option ω) :
    Touches (fun x => x = name) (rewrite name f) :=
  fun s x hx => touches_put name ((s name).bind f) s x hx

/-! ## Runs that go on -/

section Runs

variable {s s' : Entries κ ω}

theorem put_eq_ok {name : κ} {content : Option ω} :
    put name content s = .ok s' ↔
      ∃ v, content = some v ∧ s' = Function.update s name (some v) := by
  cases content with
  | none => simp [put]
  | some v => simp [put, eq_comm]

theorem gives_put {name : κ} {content : Option ω} (known : Option ω) (hcontent : content = known) :
    Gives (put name content s) (∃ v, known = some v) fun s' => s' = Function.update s name known := by
  subst hcontent
  refine ⟨?_, fun s' hrun => ?_⟩
  · simp only [put_eq_ok]
    exact ⟨fun ⟨_, v, hv, _⟩ => ⟨v, hv⟩, fun ⟨v, hv⟩ => ⟨_, v, hv, rfl⟩⟩
  · obtain ⟨v, rfl, hs'⟩ := put_eq_ok.mp hrun
    exact hs'

theorem gives_rewrite (name : κ) (f : ω → Option ω) (s : Entries κ ω) :
    Gives (rewrite name f s) (∃ v, (s name).bind f = some v)
      fun s' => s' = Function.update s name ((s name).bind f) :=
  gives_put _ rfl

theorem gives_rm (name : κ) (s : Entries κ ω) :
    Gives (rm name s) True fun s' => s' = Function.update s name none :=
  gives_ok _

/-! ### Entries that are known -/

/-- These entries are known, whatever the other ones are. -/
def Known (facts : List (κ × Option ω)) (s : Entries κ ω) : Prop := ∀ fact ∈ facts, s fact.1 = fact.2

omit [DecidableEq κ] in
theorem known_cons {name : κ} {content : Option ω} {facts : List (κ × Option ω)} :
    Known ((name, content) :: facts) s ↔ s name = content ∧ Known facts s :=
  List.forall_mem_cons

theorem Known.update {name : κ} {facts : List (κ × Option ω)} (h : Known facts s)
    (hnew : name ∉ facts.map Prod.fst) (content : Option ω) :
    Known facts (Function.update s name content) := by
  intro fact hfact
  rw [Function.update_of_ne, h fact hfact]
  rintro rfl
  exact hnew (List.mem_map_of_mem hfact)

/-- **One more entry is known.** -/
theorem gives_put_known {name : κ} {content : Option ω} {facts : List (κ × Option ω)}
    (known : Option ω) (h : Known facts s) (hnew : name ∉ facts.map Prod.fst)
    (hcontent : content = known) :
    Gives (put name content s) (∃ v, known = some v) (Known ((name, known) :: facts)) := by
  refine (gives_put known hcontent).imp Iff.rfl fun _ s' hs' => ?_
  rw [hs']
  exact known_cons.mpr ⟨Function.update_self _ _ _, h.update hnew _⟩

theorem gives_rm_known {name : κ} {facts : List (κ × Option ω)} (h : Known facts s)
    (hnew : name ∉ facts.map Prod.fst) : Gives (rm name s) True (Known facts) :=
  (gives_rm name s).imp Iff.rfl fun _ _ hs' => hs' ▸ h.update hnew none

omit [DecidableEq κ] in
theorem gives_removeWhere (p : κ → Bool) (s : Entries κ ω) :
    Gives (removeWhere p s) True fun s' => s' = fun name => if p name then none else s name :=
  gives_ok _

omit [DecidableEq κ] in
theorem gives_removeWhere_known {p : κ → Bool} {facts : List (κ × Option ω)} (h : Known facts s)
    (hkept : ∀ fact ∈ facts, p fact.1 = false) : Gives (removeWhere p s) True (Known facts) := by
  refine (gives_removeWhere p s).imp Iff.rfl fun _ s' hs' fact hfact => ?_
  subst hs'
  show (if p fact.1 = true then none else s fact.1) = fact.2
  rw [hkept fact hfact, if_neg Bool.false_ne_true, h fact hfact]

theorem cp_eq_ok {source target : κ} :
    cp source target s = .ok s' ↔
      ∃ v, s source = some v ∧ s' = Function.update s target (some v) :=
  put_eq_ok

theorem mv_eq_ok {source target : κ} :
    mv source target s = .ok s' ↔ ∃ v, s source = some v
      ∧ s' = Function.update (Function.update s target (some v)) source none := by
  unfold mv
  rw [both_eq_ok]
  constructor
  · rintro ⟨mid, hcp, hrm⟩
    obtain ⟨v, hv, rfl⟩ := cp_eq_ok.mp hcp
    exact ⟨v, hv, (Except.ok.inj hrm).symm⟩
  · rintro ⟨v, hv, rfl⟩
    exact ⟨_, cp_eq_ok.mpr ⟨v, hv, rfl⟩, rfl⟩

theorem rewrite_eq_ok {name : κ} {f : ω → Option ω} :
    rewrite name f s = .ok s' ↔
      ∃ v w, s name = some v ∧ f v = some w ∧ s' = Function.update s name (some w) := by
  unfold rewrite
  rw [put_eq_ok]
  cases s name with
  | none => simp
  | some v => simp

end Runs

/-! ## Loops that write -/

/--
**A loop that writes one entry for each word.** It gets through exactly if there is something to be
written each time; where two words mean one entry, both write the same.
-/
theorem forEach_puts {body : α → Command (Entries κ ω)} {key : α → κ} {content : α → Option ω}
    {kept : Entries κ ω → Prop} {all : List α}
    (hbody : ∀ x ∈ all, ∀ s, kept s → ∀ s', body x s = .ok s' ↔
      ∃ v, content x = some v ∧ s' = Function.update s (key x) (some v))
    (hkept : ∀ x ∈ all, ∀ s v, kept s → kept (Function.update s (key x) (some v)))
    (hkey : ∀ x ∈ all, ∀ y ∈ all, key x = key y → content x = content y) :
    ∀ {xs : List α} {s s' : Entries κ ω}, (∀ x ∈ xs, x ∈ all) → kept s →
      (forEach body xs s = .ok s' ↔ (∀ x ∈ xs, ∃ v, content x = some v ∧ s' (key x) = some v)
        ∧ ∀ name, name ∉ xs.map key → s' name = s name)
  | [], s, s', _, _ => by
    simp only [forEach, Except.ok.injEq, List.not_mem_nil, false_implies, implies_true, true_and,
      List.map_nil, not_false_eq_true, true_implies]
    exact ⟨fun h _ => by rw [h], fun h => (funext h).symm⟩
  | x :: xs, s, s', hall, hs => by
    have hx : x ∈ all := hall x List.mem_cons_self
    have hxs : ∀ y ∈ xs, y ∈ all := fun y hy => hall y (List.mem_cons_of_mem _ hy)
    rw [forEach, both_eq_ok]
    constructor
    · rintro ⟨mid, hfirst, hloop⟩
      obtain ⟨v, hv, rfl⟩ := (hbody x hx s hs mid).mp hfirst
      obtain ⟨hwritten, hframe⟩ :=
        (forEach_puts hbody hkept hkey hxs (hkept x hx s v hs)).mp hloop
      refine ⟨List.forall_mem_cons.mpr ⟨⟨v, hv, ?_⟩, hwritten⟩, fun name hname => ?_⟩
      · by_cases hmem : key x ∈ xs.map key
        · -- the entry is written once more
          obtain ⟨y, hy, heq⟩ := List.mem_map.mp hmem
          obtain ⟨w, hw, hs'⟩ := hwritten y hy
          rw [← heq, hs', ← hw, hkey y (hxs y hy) x hx heq, hv]
        · rw [hframe _ hmem, Function.update_self]
      · rw [List.map_cons, List.mem_cons, not_or] at hname
        rw [hframe name hname.2, Function.update_of_ne hname.1]
    · rintro ⟨hwritten, hframe⟩
      obtain ⟨⟨v, hv, hs'⟩, hwritten⟩ := List.forall_mem_cons.mp hwritten
      refine ⟨_, (hbody x hx s hs _).mpr ⟨v, hv, rfl⟩,
        (forEach_puts hbody hkept hkey hxs (hkept x hx s v hs)).mpr ⟨hwritten, fun name hname => ?_⟩⟩
      by_cases heq : name = key x
      · rw [heq, hs', Function.update_self]
      · rw [Function.update_of_ne heq]
        refine hframe name ?_
        rw [List.map_cons, List.mem_cons, not_or]
        exact ⟨heq, hname⟩

/-- It gets through if there is something to be written each time. -/
theorem exists_forEach_puts {body : α → Command (Entries κ ω)} {key : α → κ}
    {content : α → Option ω} {kept : Entries κ ω → Prop} {xs : List α} {s : Entries κ ω}
    (hbody : ∀ x ∈ xs, ∀ s, kept s → ∀ s', body x s = .ok s' ↔
      ∃ v, content x = some v ∧ s' = Function.update s (key x) (some v))
    (hkept : ∀ x ∈ xs, ∀ s v, kept s → kept (Function.update s (key x) (some v))) (hs : kept s) :
    (∃ s', forEach body xs s = .ok s') ↔ ∀ x ∈ xs, ∃ v, content x = some v := by
  refine exists_forEach (P := kept) (fun x hx s hs => ?_) (fun x hx s s' hs hrun => ?_) hs
  · simp only [hbody x hx s hs]
    exact ⟨fun ⟨_, v, hv, _⟩ => ⟨v, hv⟩, fun ⟨v, hv⟩ => ⟨_, v, hv, rfl⟩⟩
  · obtain ⟨v, -, rfl⟩ := (hbody x hx s hs s').mp hrun
    exact hkept x hx s v hs

end Libreboot.Infra.Script
