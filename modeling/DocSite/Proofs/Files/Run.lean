/-
  DocSite.Proofs.Files.Run

  Programs that change a state and may fail. `Ends` tells with what result a program ends
  and what state it leaves: there is one lemma for each way to put programs together and
  one for each thing that is asked of the world, so that what a program does is read off its
  text. `ReadsOnly` says of a program that it leaves every state as it is.
-/
import DocSite.Files.World

namespace DocSite

variable {σ ε ε' α β : Type}

/-- A program started in the state `s` ends with the result `r` and leaves `s'`. -/
def Ends (x : ExceptT ε (StateM σ) α) (s : σ) (r : Except ε α) (s' : σ) : Prop :=
  (x.run.run s).run = (r, s')

theorem exists_ends (x : ExceptT ε (StateM σ) α) (s : σ) : ∃ r s', Ends x s r s' :=
  ⟨(x.run.run s).run.1, (x.run.run s).run.2, rfl⟩

/-! ## Putting programs together -/

section Ends

variable {s s' : σ}

theorem ends_pure_iff {a : α} {r : Except ε α} : Ends (pure a) s r s' ↔ r = .ok a ∧ s' = s := by
  have hrun : ((pure a : ExceptT ε (StateM σ) α).run.run s).run = (.ok a, s) := rfl
  rw [Ends, hrun, Prod.mk.injEq, eq_comm, eq_comm (a := s)]

theorem ends_throw_iff {e : ε} {r : Except ε α} :
    Ends (throw e) s r s' ↔ r = .error e ∧ s' = s := by
  have hrun : ((throw e : ExceptT ε (StateM σ) α).run.run s).run = (.error e, s) := rfl
  rw [Ends, hrun, Prod.mk.injEq, eq_comm, eq_comm (a := s)]

/-- What follows a program that fails is left out. -/
theorem ends_bind_iff {x : ExceptT ε (StateM σ) α} {f : α → ExceptT ε (StateM σ) β}
    {r : Except ε β} :
    Ends (x >>= f) s r s' ↔ (∃ a s₁, Ends x s (.ok a) s₁ ∧ Ends (f a) s₁ r s') ∨
      ∃ e, Ends x s (.error e) s' ∧ r = .error e := by
  have hrun : ((x >>= f).run.run s).run = match (x.run.run s).run with
      | (.ok a, s₁) => ((f a).run.run s₁).run
      | (.error e, s₁) => (.error e, s₁) := by
    rw [ExceptT.run_bind, StateT.run_bind]
    obtain ⟨r, s₁⟩ := x.run.run s
    cases r <;> rfl
  unfold Ends
  rw [hrun]
  obtain ⟨r₁, s₁⟩ := (x.run.run s).run
  cases r₁ with
  | ok a => simp [and_assoc]
  | error e => simp [and_assoc, and_comm, eq_comm]

theorem ends_bind_of_ok {x : ExceptT ε (StateM σ) α} {f : α → ExceptT ε (StateM σ) β} {a : α}
    {s₁ : σ} {r : Except ε β} (h : Ends x s (.ok a) s₁) :
    Ends (x >>= f) s r s' ↔ Ends (f a) s₁ r s' := by
  constructor
  · intro hbind
    rcases ends_bind_iff.mp hbind with ⟨b, s₂, hx, hf⟩ | ⟨e, hx, -⟩
    · obtain ⟨ha, rfl⟩ := Prod.mk.inj (h.symm.trans hx)
      rwa [Except.ok.inj ha]
    · nomatch (Prod.mk.inj (h.symm.trans hx)).1
  · intro hf
    exact ends_bind_iff.mpr (.inl ⟨a, s₁, h, hf⟩)

theorem ends_bind_of_error {x : ExceptT ε (StateM σ) α} {f : α → ExceptT ε (StateM σ) β} {e : ε}
    {s₁ : σ} {r : Except ε β} (h : Ends x s (.error e) s₁) :
    Ends (x >>= f) s r s' ↔ r = .error e ∧ s' = s₁ := by
  constructor
  · intro hbind
    rcases ends_bind_iff.mp hbind with ⟨b, s₂, hx, -⟩ | ⟨e₁, hx, rfl⟩
    · nomatch (Prod.mk.inj (h.symm.trans hx)).1
    · obtain ⟨he, rfl⟩ := Prod.mk.inj (h.symm.trans hx)
      exact ⟨congrArg Except.error (Except.error.inj he).symm, rfl⟩
  · rintro ⟨rfl, rfl⟩
    exact ends_bind_iff.mpr (.inr ⟨e, h, rfl⟩)

theorem ends_throw_bind_iff {f : α → ExceptT ε (StateM σ) β} {e : ε} {r : Except ε β} :
    Ends (throw e >>= f) s r s' ↔ r = .error e ∧ s' = s :=
  ends_bind_of_error (ends_throw_iff.mpr ⟨rfl, rfl⟩)

theorem ends_adapt_iff {x : ExceptT ε (StateM σ) α} {f : ε → ε'} {r : Except ε' α} :
    Ends (x.adapt f) s r s' ↔ ∃ r₁, Ends x s r₁ s' ∧ r = r₁.mapError f := by
  have hrun : ((x.adapt f).run.run s).run =
      ((x.run.run s).run.1.mapError f, (x.run.run s).run.2) := rfl
  unfold Ends
  rw [hrun]
  obtain ⟨r₁, s₁⟩ := (x.run.run s).run
  simp [and_assoc, and_comm, eq_comm]

theorem ends_liftExcept_iff {e r : Except ε α} :
    Ends (liftM e) s r s' ↔ r = e ∧ s' = s := by
  cases e with
  | ok a => exact ends_pure_iff
  | error e => exact ends_throw_iff

theorem ends_lift_iff {x : StateM σ α} {r : Except ε α} :
    Ends (liftM x) s r s' ↔ ∃ a, (x.run s).run = (a, s') ∧ r = .ok a := by
  have hrun : ((liftM x : ExceptT ε (StateM σ) α).run.run s).run =
      (.ok (x.run s).run.1, (x.run s).run.2) := rfl
  unfold Ends
  rw [hrun]
  obtain ⟨a, s₁⟩ := (x.run s).run
  simp [and_assoc, and_comm, eq_comm]

/-- What is asked of the world does not fail, whatever it answers. -/
theorem ends_lift_bind_iff {x : StateM σ α} {f : α → ExceptT ε (StateM σ) β} {a : α} {s₁ : σ}
    {r : Except ε β} (h : (x.run s).run = (a, s₁)) :
    Ends (liftM x >>= f) s r s' ↔ Ends (f a) s₁ r s' :=
  ends_bind_of_ok (ends_lift_iff.mpr ⟨a, h, rfl⟩)

/-- A program may insist on what it asks of the world. The state is then the one after the
    question, whatever the answer. -/
theorem ends_insist_iff {x : StateM σ Bool} {e : ε} {done : Bool} {s₁ : σ} {r : Except ε Unit}
    (h : (x.run s).run = (done, s₁)) :
    Ends (liftM x >>= fun done => if !done then throw e else pure ()) s r s' ↔
      r = (if done then .ok () else .error e) ∧ s' = s₁ := by
  rw [ends_lift_bind_iff h]
  cases done with
  | true => exact ends_pure_iff
  | false => exact ends_throw_iff

end Ends

/-! ## What is asked of the world -/

theorem run_readText? (path : String) (w : World) :
    ((FileAccess.readText? path : StateM World (Option String)).run w).run =
      (w.text? path, w) := rfl

theorem run_pathExists (path : String) (w : World) :
    ((FileAccess.pathExists path : StateM World Bool).run w).run =
      ((w.find? path).isSome, w) := rfl

theorem run_createDirectories (path : String) (w : World) :
    ((FileAccess.createDirectories path : StateM World Bool).run w).run =
      ((w.createAll path).1, (w.createAll path).2) := rfl

theorem run_writeText (path text : String) (w : World) :
    ((FileAccess.writeText path text : StateM World Bool).run w).run =
      ((w.writeFile path text).1, (w.writeFile path text).2) := rfl

theorem run_print (text : String) (w : World) :
    ((Console.print text : StateM World Bool).run w).run =
      ((w.print text).1, (w.print text).2) := rfl

theorem run_printError (text : String) (w : World) :
    ((Console.printError text : StateM World Unit).run w).run = ((), w.printError text) := rfl

/-! ## Programs that only read -/

/-- A program that leaves every state as it is. -/
def ReadsOnly (x : ExceptT ε (StateM σ) α) : Prop := ∀ ⦃s r s'⦄, Ends x s r s' → s' = s

namespace ReadsOnly

theorem pure (a : α) : ReadsOnly (pure a : ExceptT ε (StateM σ) α) :=
  fun _ _ _ h => (ends_pure_iff.mp h).2

theorem throw (e : ε) : ReadsOnly (throw e : ExceptT ε (StateM σ) α) :=
  fun _ _ _ h => (ends_throw_iff.mp h).2

theorem bind {x : ExceptT ε (StateM σ) α} {f : α → ExceptT ε (StateM σ) β}
    (hx : ReadsOnly x) (hf : ∀ a, ReadsOnly (f a)) : ReadsOnly (x >>= f) := by
  intro s r s' h
  rcases ends_bind_iff.mp h with ⟨a, s₁, h₁, h₂⟩ | ⟨e, h₁, -⟩
  · exact (hf a h₂).trans (hx h₁)
  · exact hx h₁

theorem adapt {x : ExceptT ε (StateM σ) α} (f : ε → ε') (hx : ReadsOnly x) :
    ReadsOnly (x.adapt f) := by
  intro s r s' h
  obtain ⟨r₁, h₁, -⟩ := ends_adapt_iff.mp h
  exact hx h₁

theorem liftExcept (e : Except ε α) :
    ReadsOnly (liftM e : ExceptT ε (StateM σ) α) :=
  fun _ _ _ h => (ends_liftExcept_iff.mp h).2

theorem lift {x : StateM σ α} (h : ∀ s, (x.run s).run.2 = s) :
    ReadsOnly (liftM x : ExceptT ε (StateM σ) α) := by
  intro s r s' hx
  obtain ⟨a, ha, -⟩ := ends_lift_iff.mp hx
  rw [← h s, ha]

end ReadsOnly

end DocSite
