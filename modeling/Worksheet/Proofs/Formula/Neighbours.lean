import Mathlib.Data.List.Chain
import Worksheet.Proofs.Formula.Grammar

/-!
# Which tokens stand side by side

In a formula an operand is followed by an operator, a comma or a closing bracket, a name by a
bracket, and an operator by what can begin an operand (`Derives.isFramed`).  So no token is followed
by one that it could be read together with.
-/

namespace Worksheet

namespace Token

/-- Can the token begin an operand?  Among the operators only a sign can. -/
def Opens : Token → Prop
  | operator op => op.tier = .sum
  | rightParen => False
  | comma => False
  | _ => True

/-- Can the token follow an operand? -/
def Closes : Token → Prop
  | operator _ => True
  | rightParen => True
  | comma => True
  | _ => False

/-- Can the second token follow the first one?  Behind brackets and commas nothing is asked of it,
since these stand for themselves in front of anything. -/
def MayPrecede : Token → Token → Prop
  | operator _, u => u.Opens
  | leftParen, _ => True
  | rightParen, _ => True
  | comma, _ => True
  | name _, u => u = leftParen
  | _, u => u.Closes

/-- Can every token that follows an operand follow this token? -/
def Ends (t : Token) : Prop :=
  ∀ u : Token, u.Closes → t.MayPrecede u

/-- Do all the tokens stand in front of one that can follow them? -/
def Neighbours (ts : List Token) : Prop :=
  ts.IsChain MayPrecede

/-- Neighbours, of which the first can begin an operand and the last can end one. -/
structure IsFramed (ts : List Token) : Prop where
  neighbours : Neighbours ts
  opens : ∃ t ∈ ts.head?, t.Opens
  ends : ∃ t ∈ ts.getLast?, t.Ends

section Framed

variable {t : Token} {ts us : List Token}

theorem isFramed_singleton (hopens : t.Opens) (hends : t.Ends) : IsFramed [t] where
  neighbours := List.isChain_singleton t
  opens := ⟨t, rfl, hopens⟩
  ends := ⟨t, rfl, hends⟩

theorem IsFramed.neighbours_cons (h : IsFramed ts) (ht : ∀ u : Token, u.Opens → t.MayPrecede u) :
    Neighbours (t :: ts) := by
  obtain ⟨u, hu, hopens⟩ := h.opens
  refine List.isChain_cons.2 ⟨fun v hv => ?_, h.neighbours⟩
  obtain rfl := Option.mem_unique hu hv
  exact ht u hopens

/-- A sign or a bracket goes in front of an operand. -/
theorem IsFramed.cons (h : IsFramed ts) (hopens : t.Opens)
    (ht : ∀ u : Token, u.Opens → t.MayPrecede u) : IsFramed (t :: ts) where
  neighbours := h.neighbours_cons ht
  opens := ⟨t, rfl, hopens⟩
  ends := by
    obtain ⟨u, hu, hends⟩ := h.ends
    refine ⟨u, ?_, hends⟩
    rw [List.getLast?_cons, Option.mem_def.1 hu]
    rfl

/-- What can follow an operand goes on behind it. -/
theorem IsFramed.append (h : IsFramed ts) (ht : t.Closes) (hus : Neighbours (t :: us))
    (hends : ∃ u ∈ (t :: us).getLast?, u.Ends) : IsFramed (ts ++ t :: us) where
  neighbours := by
    obtain ⟨u, hu, huends⟩ := h.ends
    refine List.isChain_append.2 ⟨h.neighbours, hus, fun v hv w hw => ?_⟩
    obtain rfl := Option.mem_unique hu hv
    obtain rfl := Option.some.inj hw
    exact huends _ ht
  opens := by
    obtain ⟨u, hu, hopens⟩ := h.opens
    exact ⟨u, by rw [List.head?_append, Option.mem_def.1 hu]; rfl, hopens⟩
  ends := by
    obtain ⟨u, hu, huends⟩ := hends
    exact ⟨u, by rw [List.getLast?_append, Option.mem_def.1 hu]; rfl, huends⟩

/-- Two operands around an operator or a comma. -/
theorem IsFramed.join (h : IsFramed ts) (h' : IsFramed us) (ht : t.Closes)
    (hopens : ∀ u : Token, u.Opens → t.MayPrecede u) : IsFramed (ts ++ t :: us) := by
  refine h.append ht (h'.neighbours_cons hopens) ?_
  obtain ⟨u, hu, hends⟩ := h'.ends
  refine ⟨u, ?_, hends⟩
  rw [List.getLast?_cons, Option.mem_def.1 hu]
  rfl

theorem ends_rightParen : rightParen.Ends := fun _ _ => trivial

/-- A bracket closed behind an operand. -/
theorem IsFramed.close (h : IsFramed ts) : IsFramed (ts ++ [.rightParen]) :=
  h.append trivial (List.isChain_singleton _) ⟨.rightParen, rfl, ends_rightParen⟩

theorem IsFramed.brackets (h : IsFramed ts) : IsFramed (.leftParen :: (ts ++ [.rightParen])) :=
  h.close.cons trivial fun _ _ => trivial

/-- A name in front of its bracket. -/
theorem IsFramed.call (f : String) (h : IsFramed (.leftParen :: ts)) :
    IsFramed (.name f :: .leftParen :: ts) where
  neighbours := List.isChain_cons_cons.2 ⟨rfl, h.neighbours⟩
  opens := ⟨.name f, rfl, trivial⟩
  ends := h.ends

end Framed

end Token

/-- **In a phrase only neighbours stand side by side.** -/
theorem Derives.isFramed {phrase : Phrase} {n : Nat} {ts : List Token} (h : Derives phrase n ts) :
    Token.IsFramed ts := by
  induction h with
  | number x => exact Token.isFramed_singleton trivial fun _ hu => hu
  | text s => exact Token.isFramed_singleton trivial fun _ hu => hu
  | boolean b => exact Token.isFramed_singleton trivial fun _ hu => hu
  | cell a => exact Token.isFramed_singleton trivial fun _ hu => hu
  | range r => exact Token.isFramed_singleton trivial fun _ hu => hu
  | brackets _ ih => exact ih.brackets
  | sign hop _ ih => exact ih.cons hop fun _ hu => hu
  | emptyCall f =>
    refine Token.IsFramed.call f ⟨?_, ⟨_, rfl, trivial⟩, ⟨_, rfl, Token.ends_rightParen⟩⟩
    exact List.isChain_cons_cons.2 ⟨trivial, List.isChain_singleton _⟩
  | call f _ ih => exact ih.brackets.call f
  | tighter _ ih => exact ih
  | binary _ _ ih ih' => exact ih.join ih' trivial fun _ hu => hu
  | lastArgument _ ih => exact ih
  | argument _ _ ih ih' => exact ih.join ih' trivial fun _ _ => trivial

end Worksheet
