import Honeypot.Proofs.Verdict.Average

namespace Honeypot

def Engine.inOrder (engines : Finset Engine) : List Engine := Engine.all.filter (· ∈ engines)

namespace Engine

theorem mem_inOrder_iff {engines : Finset Engine} {e : Engine} :
    e ∈ inOrder engines ↔ e ∈ engines := by
  have hall : e ∈ all := Finset.mem_univ e
  rw [inOrder, List.mem_filter, decide_eq_true_eq]
  exact and_iff_right hall

theorem nodup_inOrder (engines : Finset Engine) : (inOrder engines).Nodup :=
  List.Nodup.filter _ (by decide)

theorem toFinset_inOrder (engines : Finset Engine) : (inOrder engines).toFinset = engines := by
  ext e
  rw [List.mem_toFinset, mem_inOrder_iff]

end Engine

namespace Config

variable (c : Config ℚ) {engines others : Finset Engine}

def profile (engines : Finset Engine) : Weights ℚ :=
  if .symbolic ∈ engines then c.weights else c.weightsWithoutSymbolic

/-- An engine of the set has a weight above zero. -/
def HasWeight (engines : Finset Engine) : Prop := ∃ e ∈ engines, 0 < (c.profile engines).of e

/-- What a list tells of the shares of a set of engines: it lists each of them once and gives it
the part of its weight in all weights above zero, or an equal part where there are none. -/
structure SharesOut (engines : Finset Engine) (shares : List (Engine × ℚ)) : Prop where
  keys : shares.map Prod.fst = Engine.all.filter (· ∈ engines)
  nonneg : ∀ e w, (e, w) ∈ shares → 0 ≤ w
  total : (shares.map Prod.snd).sum = 1
  rescaled : c.HasWeight engines → ∀ e w, (e, w) ∈ shares →
    w = max ((c.profile engines).of e) 0 / ∑ e ∈ engines, max ((c.profile engines).of e) 0
  positive : c.HasWeight engines →
    ∀ e w, (e, w) ∈ shares → (0 < w ↔ 0 < (c.profile engines).of e)
  equal : ¬c.HasWeight engines → ∀ e w, (e, w) ∈ shares → w = 1 / engines.card

theorem baseWeight_inOrder (engines : Finset Engine) (e : Engine) :
    c.baseWeight (Engine.inOrder engines) e = max ((c.profile engines).of e) 0 := by
  have hsymbolic : (Engine.inOrder engines).contains .symbolic = true ↔ .symbolic ∈ engines := by
    rw [List.contains_iff_mem, Engine.mem_inOrder_iff]
  simp only [baseWeight, profile, hsymbolic]
  exact Scalar.max_eq_max _ 0

theorem totalWeight_inOrder (engines : Finset Engine) :
    c.totalWeight (Engine.inOrder engines) = ∑ e ∈ engines, max ((c.profile engines).of e) 0 := by
  rw [totalWeight_eq_sum c (Engine.nodup_inOrder engines), Engine.toFinset_inOrder]
  exact Finset.sum_congr rfl fun e _ => c.baseWeight_inOrder engines e

variable {c}

theorem totalWeight_pos_iff :
    0 < c.totalWeight (Engine.inOrder engines) ↔ c.HasWeight engines := by
  rw [totalWeight_inOrder, Finset.sum_pos_iff_of_nonneg fun e _ => le_max_right _ 0, HasWeight]
  simp only [lt_max_iff, lt_irrefl, or_false]

theorem share_of_hasWeight (h : c.HasWeight engines) (e : Engine) :
    c.share (Engine.inOrder engines) e =
      max ((c.profile engines).of e) 0 / ∑ e ∈ engines, max ((c.profile engines).of e) 0 := by
  rw [c.share_of_pos (totalWeight_pos_iff.mpr h), baseWeight_inOrder, totalWeight_inOrder]

theorem share_pos_iff (h : c.HasWeight engines) (e : Engine) :
    0 < c.share (Engine.inOrder engines) e ↔ 0 < (c.profile engines).of e := by
  have htotal := totalWeight_pos_iff.mpr h
  rw [c.share_of_pos htotal, div_pos_iff_of_pos_right htotal, baseWeight_inOrder, lt_max_iff,
    or_iff_left (lt_irrefl _)]

theorem share_of_not_hasWeight (h : ¬c.HasWeight engines) (e : Engine) :
    c.share (Engine.inOrder engines) e = 1 / engines.card := by
  have htotal : c.totalWeight (Engine.inOrder engines) ≤ 0 :=
    not_lt.mp fun hpos => h (totalWeight_pos_iff.mp hpos)
  rw [c.share_of_nonpos htotal, ← List.toFinset_card_of_nodup (Engine.nodup_inOrder engines),
    Engine.toFinset_inOrder]

theorem eq_share_of_mem_shares {present : List Engine} {e : Engine} {w : ℚ}
    (h : (e, w) ∈ c.shares present) : w = c.share present e := by
  obtain ⟨_, -, heq⟩ := List.mem_map.mp h
  obtain ⟨rfl, rfl⟩ := Prod.mk.inj heq
  rfl

theorem sum_shares (h : engines.Nonempty) :
    ((c.shares (Engine.inOrder engines)).map Prod.snd).sum = 1 := by
  have hnodup := Engine.nodup_inOrder engines
  have hne : Engine.inOrder engines ≠ [] := by
    rw [← List.toFinset_nonempty_iff, Engine.toFinset_inOrder]
    exact h
  calc ((c.shares (Engine.inOrder engines)).map Prod.snd).sum
      = ((Engine.inOrder engines).map (c.share (Engine.inOrder engines))).sum := by
        rw [shares, List.map_map]
        rfl
    _ = 1 := by rw [← List.sum_toFinset _ hnodup, c.sum_share hnodup hne]

theorem sharesOut_shares (h : engines.Nonempty) :
    c.SharesOut engines (c.shares (Engine.inOrder engines)) where
  keys := by
    rw [shares, List.map_map]
    exact List.map_id _
  nonneg := by
    intro e w hw
    rw [eq_share_of_mem_shares hw]
    exact c.share_nonneg _ _
  total := sum_shares h
  rescaled := by
    intro hweight e w hw
    rw [eq_share_of_mem_shares hw, share_of_hasWeight hweight]
  positive := by
    intro hweight e w hw
    rw [eq_share_of_mem_shares hw, share_pos_iff hweight]
  equal := by
    intro hweight e w hw
    rw [eq_share_of_mem_shares hw, share_of_not_hasWeight hweight]

theorem profile_congr (h : .symbolic ∈ engines ↔ .symbolic ∈ others) :
    c.profile engines = c.profile others := by
  simp only [profile, h]

theorem share_mul_share_comm (hsymbolic : .symbolic ∈ engines ↔ .symbolic ∈ others)
    (hengines : c.HasWeight engines) (hothers : c.HasWeight others) (a b : Engine) :
    c.share (Engine.inOrder engines) a * c.share (Engine.inOrder others) b =
      c.share (Engine.inOrder engines) b * c.share (Engine.inOrder others) a := by
  rw [share_of_hasWeight hengines, share_of_hasWeight hothers, share_of_hasWeight hengines,
    share_of_hasWeight hothers, profile_congr hsymbolic, div_mul_div_comm, div_mul_div_comm,
    mul_comm (max _ 0)]

variable (c)

/-- The weights of the engines that are present are rescaled to add up to one. This keeps the
proportion of any two engines, as long as the same weights hold. -/
theorem shares_keep_proportions (engines : Finset Engine) (h : engines.Nonempty) :
    c.SharesOut engines (c.shares (Engine.inOrder engines)) ∧
    ∀ others : Finset Engine, (.symbolic ∈ engines ↔ .symbolic ∈ others) →
      c.HasWeight engines → c.HasWeight others →
      ∀ a b wa wb wa' wb',
        (a, wa) ∈ c.shares (Engine.inOrder engines) →
        (b, wb) ∈ c.shares (Engine.inOrder engines) →
        (a, wa') ∈ c.shares (Engine.inOrder others) →
        (b, wb') ∈ c.shares (Engine.inOrder others) →
        wa * wb' = wb * wa' := by
  refine ⟨sharesOut_shares h, ?_⟩
  intro others hsymbolic hengines hothers a b wa wb wa' wb' ha hb ha' hb'
  rw [eq_share_of_mem_shares ha, eq_share_of_mem_shares hb, eq_share_of_mem_shares ha',
    eq_share_of_mem_shares hb']
  exact share_mul_share_comm hsymbolic hengines hothers a b

/-- Weights above and below zero, which leave the history alone without any where the symbolic
engine is absent. -/
def lopsided : Config ℚ :=
  { (standard : Config ℚ) with
    weights := { ml := 1, symbolic := -2, static := 3, history := 4 }
    weightsWithoutSymbolic := { ml := 5, symbolic := 7, static := -1 / 3, history := 0 } }

theorem shares_lopsided :
    (({.ml, .symbolic, .static} : Finset Engine).Nonempty ∧
      lopsided.SharesOut {.ml, .symbolic, .static}
        [(.ml, 1 / 4), (.symbolic, 0), (.static, 3 / 4)]) ∧
    (({.static, .history} : Finset Engine).Nonempty ∧
      lopsided.SharesOut {.static, .history} [(.static, 1 / 2), (.history, 1 / 2)]) ∧
    (lopsided.HasWeight {.ml, .symbolic, .static} ∧ lopsided.HasWeight Finset.univ ∧
      lopsided.share (Engine.inOrder {.ml, .symbolic, .static}) .ml *
          lopsided.share (Engine.inOrder Finset.univ) .static =
        lopsided.share (Engine.inOrder {.ml, .symbolic, .static}) .static *
          lopsided.share (Engine.inOrder Finset.univ) .ml) := by
  have hthree : ({.ml, .symbolic, .static} : Finset Engine).Nonempty := ⟨.ml, by decide⟩
  have htwo : ({.static, .history} : Finset Engine).Nonempty := ⟨.static, by decide⟩
  have hweight : lopsided.HasWeight {.ml, .symbolic, .static} :=
    ⟨.ml, by decide, by decide +kernel⟩
  have hall : lopsided.HasWeight Finset.univ := ⟨.ml, by decide, by decide +kernel⟩
  have hsharesThree : lopsided.shares (Engine.inOrder {.ml, .symbolic, .static}) =
      [(.ml, 1 / 4), (.symbolic, 0), (.static, 3 / 4)] := by decide +kernel
  have hsharesTwo : lopsided.shares (Engine.inOrder {.static, .history}) =
      [(.static, 1 / 2), (.history, 1 / 2)] := by decide +kernel
  obtain ⟨hrescaled, hkept⟩ := lopsided.shares_keep_proportions _ hthree
  have hequal := (lopsided.shares_keep_proportions _ htwo).1
  rw [hsharesThree] at hrescaled
  rw [hsharesTwo] at hequal
  refine ⟨⟨hthree, hrescaled⟩, ⟨htwo, hequal⟩, hweight, hall, ?_⟩
  have hmem (engines : Finset Engine) (e : Engine) (he : e ∈ Engine.inOrder engines) :
      (e, lopsided.share (Engine.inOrder engines) e) ∈ lopsided.shares (Engine.inOrder engines) :=
    List.mem_map_of_mem he
  exact hkept Finset.univ (by decide) hweight hall .ml .static _ _ _ _ (hmem _ _ (by decide))
    (hmem _ _ (by decide)) (hmem _ _ (by decide)) (hmem _ _ (by decide))

end Config

end Honeypot
