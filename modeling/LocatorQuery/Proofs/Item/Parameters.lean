import LocatorQuery.Proofs.Item.TestName
import LocatorQuery.Proofs.Locator.Partner
import LocatorQuery.Proofs.Locator.Value

/-! The parameters of a test name. Read from behind, they are the shortest balanced part at the end that opens
with a parenthesis, and this part is one group. -/
namespace LocatorQuery.TestName
open Nesting

/-- A balanced part at the end of a text that opens with a parenthesis. -/
def Trails (text part : List Char) : Prop :=
  part <:+ text ∧ Balanced part ∧ part.head? = some '('

/-- A character can leave any number of groups open, except that an opening parenthesis leaves at least one. -/
theorem opens_or_leaves (c : Char) (d : Nat) : (c = '(' ∧ d = 0) ∨ ∃ k, depth? k [c] = some d := by
  rcases char_cases c with rfl | rfl | hc
  · cases d with
    | zero => exact .inl ⟨rfl, rfl⟩
    | succ k => exact .inr ⟨k, rfl⟩
  · exact .inr ⟨d + 1, rfl⟩
  · exact .inr ⟨d, by rw [depth?_ordinary hc, depth?_nil]⟩

/-- What is cut off going back inside `d + 1` groups opens the outermost of them and leaves the others open. -/
theorem of_cutGroup {d : Nat} {cs group head : List Char} (h : cutGroup (d + 1) cs = some (group, head)) :
    cs = group ++ head ∧ ∃ body, group.reverse = '(' :: body ∧ depth? 0 body = some d := by
  induction cs generalizing d group with
  | nil => cases h
  | cons c cs ih =>
    -- Only the parenthesis that opens the outermost group ends the cut. Any other character joins the body.
    rcases opens_or_leaves c d with ⟨rfl, rfl⟩ | ⟨k, hc⟩
    · cases h
      exact ⟨rfl, [], rfl, depth?_nil 0⟩
    · rw [cutGroup_step hc, Option.map_eq_some_iff] at h
      obtain ⟨⟨group, _⟩, h, he⟩ := h
      cases he
      obtain ⟨rfl, body, hgroup, hbody⟩ := ih h
      refine ⟨rfl, body ++ [c], ?_, ?_⟩
      · rw [List.reverse_cons, hgroup, List.cons_append]
      · rw [depth?_append, hbody, Option.bind_some, hc]

/-- Either nothing is split off, or a group is. -/
theorem splitParameters_cases (text : List Char) :
    splitParameters text = (text, []) ∨ ∃ head body, Balanced body ∧
      splitParameters text = (head, '(' :: (body ++ [')'])) ∧ text = head ++ '(' :: (body ++ [')']) := by
  rw [splitParameters]
  split
  · next rest hreverse =>
    rw [hreverse, cutGroup]
    cases hcut : cutGroup 1 rest with
    | none => exact .inl rfl
    | some parts =>
      obtain ⟨group, head⟩ := parts
      obtain ⟨rfl, body, hgroup, hbody⟩ := of_cutGroup hcut
      right
      refine ⟨head.reverse, body, balanced_iff_depth?.mpr hbody, ?_, ?_⟩
      · simp [hgroup]
      · rw [← List.reverse_reverse text, hreverse]
        simp [hgroup]
  · exact .inl rfl

theorem trails_group {body : List Char} (h : Balanced body) (head : List Char) :
    Trails (head ++ '(' :: (body ++ [')'])) ('(' :: (body ++ [')'])) :=
  ⟨List.suffix_append _ _, balanced_iff_depth?.mpr (Value.depth?_wrapped h), rfl⟩

/-- In a text that ends in a parenthesis each such part ends in the group that is split off. -/
theorem Trails.group_suffix {text part head group : List Char} (h : Trails text part)
    (last : text.getLast? = some ')') (hsplit : splitParameters text = (head, group)) :
    group ≠ [] ∧ group <:+ part := by
  obtain ⟨⟨front, rfl⟩, hbalanced, hopen⟩ := h
  have hne : part ≠ [] := by
    rintro rfl
    cases hopen
  rw [List.getLast?_append_of_ne_nil _ hne] at last
  obtain ⟨ahead, body, hbody, rfl⟩ := hbalanced.exists_group last
  rw [← List.append_assoc, splitParameters_group hbody] at hsplit
  cases hsplit
  exact ⟨List.cons_ne_nil _ _, List.suffix_append _ _⟩

/-- The two parts make up the text. Something is split off just when the text ends in a parenthesis and has a
balanced part at its end that opens with one. It is then the shortest such part, and looking forward from its
first parenthesis the one that closes it is the last character. -/
theorem splitParameters_shortest_group (text : List Char) :
    ∃ head group, splitParameters text = (head, group) ∧ head ++ group = text ∧
      (group ≠ [] ↔ text.getLast? = some ')' ∧ ∃ part, Trails text part) ∧
      (group ≠ [] → Trails text group ∧ (∀ part, Trails text part → group <:+ part) ∧
        ∃ body, Balanced body ∧ group = '(' :: (body ++ [')']) ∧ body? 0 group.tail = some body) := by
  rcases splitParameters_cases text with hnone | ⟨head, body, hbody, hsplit, rfl⟩
  · refine ⟨text, [], hnone, List.append_nil text, iff_of_false nofun ?_, nofun⟩
    rintro ⟨last, part, hpart⟩
    exact (hpart.group_suffix last hnone).1 rfl
  · have last : (head ++ '(' :: (body ++ [')'])).getLast? = some ')' := by
      rw [← List.cons_append, ← List.append_assoc, List.getLast?_concat]
    have htrails := trails_group hbody head
    refine ⟨head, _, hsplit, rfl, iff_of_true nofun ⟨last, _, htrails⟩, fun _ => ⟨htrails, ?_, ?_⟩⟩
    · exact fun part hpart => (hpart.group_suffix last hsplit).2
    · exact ⟨body, hbody, rfl, Value.body?_append_close (balanced_iff_depth?.mp hbody)⟩

/-- Of two groups at the end only the last one is split off, and a surplus parenthesis ahead of it stays. -/
example : splitParameters "a)(b)(c(d))".toList = ("a)(b)".toList, "(c(d))".toList) := by decide

end LocatorQuery.TestName
