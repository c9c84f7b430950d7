/-!
# What a run keeps

The readers and builders of documents are runs over a state that can fail. A run that does not fail
leaves a sound state behind, and one that has all that the state before it had. So what was found
out on the way stays true, and a statement about a run is put together from those about its steps.
-/

namespace ComposeLint.Yaml

/-- States that are sound, and the states that come after one: they have all that it has. -/
structure Growth (σ : Type) where
  sound : σ → Prop
  le : σ → σ → Prop
  refl (s : σ) : le s s
  trans {s t u : σ} : le s t → le t u → le s u

namespace Growth

variable {σ ε α β : Type} (g : Growth σ)

/-- From a sound state that comes after `s₀`, a run that ends well leads to a sound state that comes
after that one, with a result that fits the new state. -/
def Keeps (s₀ : σ) (m : StateT σ (Except ε) α) (Q : α → σ → Prop) : Prop :=
  ∀ s, g.le s₀ s → g.sound s → ∀ a s', m.run s = .ok (a, s') →
    g.sound s' ∧ g.le s s' ∧ Q a s'

variable {g} {s₀ : σ} {m : StateT σ (Except ε) α} {f : α → StateT σ (Except ε) β}
  {Q : α → σ → Prop} {R : β → σ → Prop}

theorem keeps_pure {a : α} (h : ∀ s, g.le s₀ s → g.sound s → Q a s) :
    g.Keeps s₀ (pure a : StateT σ (Except ε) α) Q := by
  intro s hle hs b s' hrun
  obtain ⟨rfl, rfl⟩ := Prod.mk.inj (Except.ok.inj hrun)
  exact ⟨hs, g.refl _, h _ hle hs⟩

theorem keeps_throw {e : ε} : g.Keeps s₀ (throw e : StateT σ (Except ε) α) Q := by
  intro s _ _ a s' hrun
  cases hrun

theorem keeps_throw_bind {e : ε} :
    g.Keeps s₀ (throw e >>= f : StateT σ (Except ε) β) R := by
  intro s _ _ b s' hrun
  cases hrun

theorem keeps_modify {u : σ → σ} {Q : PUnit → σ → Prop}
    (h : ∀ s, g.le s₀ s → g.sound s → g.sound (u s) ∧ g.le s (u s) ∧ Q ⟨⟩ (u s)) :
    g.Keeps s₀ (modify u : StateT σ (Except ε) PUnit) Q := by
  intro s hle hs a s' hrun
  obtain ⟨-, rfl⟩ := Prod.mk.inj (Except.ok.inj hrun)
  exact h s hle hs

theorem keeps_lift {x : Except ε α} (h : ∀ a, x = .ok a → ∀ s, g.le s₀ s → g.sound s → Q a s) :
    g.Keeps s₀ (liftM x : StateT σ (Except ε) α) Q := by
  intro s hle hs a s' hrun
  cases x with
  | error e => cases hrun
  | ok b =>
    obtain ⟨rfl, rfl⟩ := Prod.mk.inj (Except.ok.inj hrun)
    exact ⟨hs, g.refl _, h _ rfl _ hle hs⟩

theorem Keeps.bind (hm : g.Keeps s₀ m Q)
    (hf : ∀ a s, g.le s₀ s → g.sound s → Q a s → g.Keeps s (f a) R) :
    g.Keeps s₀ (m >>= f) R := by
  intro s hle hs b s'' hrun
  rw [StateT.run_bind] at hrun
  cases hfirst : m.run s with
  | error e => rw [hfirst] at hrun; cases hrun
  | ok r =>
    obtain ⟨a, s'⟩ := r
    rw [hfirst] at hrun
    obtain ⟨hs', hle', ha⟩ := hm s hle hs a s' hfirst
    obtain ⟨hs'', hle'', hb⟩ := hf a s' (g.trans hle hle') hs' ha s' (g.refl s') hs' b s'' hrun
    exact ⟨hs'', g.trans hle' hle'', hb⟩

/-- What is done with the state as it is. -/
theorem keeps_get_bind {f : σ → StateT σ (Except ε) β}
    (h : ∀ s, g.le s₀ s → g.sound s → g.Keeps s (f s) R) : g.Keeps s₀ (get >>= f) R :=
  fun s hle hs => h s hle hs s (g.refl s) hs

theorem Keeps.mono {R : α → σ → Prop} (hm : g.Keeps s₀ m Q)
    (h : ∀ a s, g.le s₀ s → g.sound s → Q a s → R a s) : g.Keeps s₀ m R := by
  intro s hle hs a s' hrun
  obtain ⟨hs', hle', ha⟩ := hm s hle hs a s' hrun
  exact ⟨hs', hle', h a s' (g.trans hle hle') hs' ha⟩

theorem Keeps.discard (hm : g.Keeps s₀ m Q) :
    g.Keeps s₀ (discard m) fun _ _ => True :=
  hm.bind fun _ _ _ _ _ => keeps_pure fun _ _ _ => trivial

theorem Keeps.ite {c : Prop} [Decidable c] {m' : StateT σ (Except ε) α}
    (hm : c → g.Keeps s₀ m Q) (hm' : ¬c → g.Keeps s₀ m' Q) :
    g.Keeps s₀ (if c then m else m') Q := by
  split
  · next hc => exact hm hc
  · next hc => exact hm' hc

/-- A list of runs, one after the other, each of which finds what stays true. -/
theorem keeps_mapM {γ : Type} {f : γ → StateT σ (Except ε) α}
    (hstays : ∀ a s t, g.le s t → Q a s → Q a t) (l : List γ)
    (hf : ∀ c ∈ l, ∀ s, g.le s₀ s → g.Keeps s (f c) Q) :
    g.Keeps s₀ (l.mapM f) fun as s => ∀ a ∈ as, Q a s := by
  induction l generalizing s₀ with
  | nil =>
    rw [List.mapM_nil]
    exact keeps_pure fun _ _ _ => List.forall_mem_nil _
  | cons c l ih =>
    rw [List.mapM_cons]
    refine (hf c List.mem_cons_self s₀ (g.refl s₀)).bind fun a s hle _ ha => ?_
    refine (ih fun c' hc' t ht =>
      hf c' (List.mem_cons_of_mem c hc') t (g.trans hle ht)).bind fun as t hle' _ has => ?_
    refine keeps_pure fun u hu _ => List.forall_mem_cons.mpr ⟨?_, fun a' ha' => ?_⟩
    · exact hstays a s u (g.trans hle' hu) ha
    · exact hstays a' t u hu (has a' ha')

theorem keeps_foldlM {γ : Type} {f : α → γ → StateT σ (Except ε) α}
    (hstays : ∀ a s t, g.le s t → Q a s → Q a t) (l : List γ)
    (hf : ∀ c ∈ l, ∀ a s, g.le s₀ s → g.sound s → Q a s → g.Keeps s (f a c) Q) :
    ∀ a, (∀ s, g.le s₀ s → g.sound s → Q a s) → g.Keeps s₀ (l.foldlM f a) Q := by
  induction l generalizing s₀ with
  | nil =>
    intro a ha
    rw [List.foldlM_nil]
    exact keeps_pure ha
  | cons c l ih =>
    intro a ha
    rw [List.foldlM_cons]
    intro s hle hs
    have hc := hf c List.mem_cons_self a s hle hs (ha s hle hs)
    refine (hc.bind fun b t hst ht hb => ?_) s (g.refl s) hs
    refine ih (fun c' hc' a' u hu => hf c' (List.mem_cons_of_mem c hc') a' u ?_) b
      fun u hu _ => hstays b t u hu hb
    exact g.trans hle (g.trans hst hu)

end Growth

end ComposeLint.Yaml
