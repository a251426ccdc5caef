import Dashboard.Log.Filter
import Dashboard.Proofs.Text.SigmaForms

/-! # Searching messages

A reader's text and a message are lower-cased apart and then compared. A message that holds
the text verbatim is found as long as no sigma of the text changes form in it, and this is
certain for exactly the texts that have no sigma at an end. -/

namespace Dashboard.Log.Filter

open Text (lowerAfter lowerBetween KeepsForms SigmaAtEnd)

theorem accepts_withText_iff (text : String) (entry : Entry) :
    (all.withText text).accepts entry = true ↔
      lowerAfter [] text.toList <:+: lowerAfter [] entry.message.toList := by
  simp [accepts, withText, all, Text.occursIn_iff, Text.lowercase]

/-! ## Messages that are found -/

theorem lowerAfter_around (before text after : List Char) :
    lowerAfter [] (before ++ text ++ after) =
      lowerBetween [] before (text ++ after) ++ lowerBetween before.reverse text after ++
        lowerAfter (text.reverse ++ before.reverse) after := by
  rw [List.append_assoc, Text.lowerAfter_append, List.append_nil, Text.lowerAfter_append,
    List.append_assoc]

/-- A message is found in which the sigmas of the text have the forms they have in the text on
its own. -/
theorem accepts_of_keepsForms {text : String} {entry : Entry} {before after : List Char}
    (hmessage : entry.message.toList = before ++ text.toList ++ after)
    (hkeeps : KeepsForms before.reverse text.toList after) :
    (all.withText text).accepts entry = true := by
  rw [accepts_withText_iff, hmessage, lowerAfter_around, (Text.lowerBetween_eq_iff ..).mpr hkeeps]
  exact ⟨_, _, rfl⟩

/-! ## Messages that are missed -/

/-- A list does not occur in another one of its length with an element in front, unless it is
the other one or begins with the element. -/
theorem not_infix_cons {α : Type*} {c : α} {text other : List α}
    (hlength : text.length = other.length) (hne : text ≠ other) (hhead : c ∉ text.head?) :
    ¬ text <:+: c :: other := by
  intro hinfix
  rcases List.infix_cons_iff.mp hinfix with hfirst | hlater
  · rcases List.prefix_cons_iff.mp hfirst with rfl | ⟨rest, rfl, -⟩
    · exact hne (List.length_eq_zero_iff.mp hlength.symm).symm
    · exact hhead rfl
  · exact hne (hlater.eq_of_length hlength)

theorem not_infix_concat {α : Type*} {c : α} {text other : List α}
    (hlength : text.length = other.length) (hne : text ≠ other) (hlast : c ∉ text.getLast?) :
    ¬ text <:+: other ++ [c] := by
  have hreverse : ¬ text.reverse <:+: c :: other.reverse :=
    not_infix_cons (by simpa using hlength) (by simpa using hne) (by simpa using hlast)
  rwa [← List.reverse_infix, List.reverse_append]

/-- A letter in front of a text, or after it, hides the text. -/
theorem exists_not_accepts_of_sigmaAtEnd {text : String} (h : SigmaAtEnd text.toList)
    (timestamp : ℤ) (entity : EntityId) (stream : Stream) :
    ∃ message : String, text.toList <:+: message.toList ∧
      ¬ (all.withText text).accepts ⟨timestamp, entity, stream, message⟩ = true := by
  rcases Text.not_keepsForms_of_sigmaAtEnd h with
    ⟨c, rest, htext, hc, hchanges⟩ | ⟨c, front, htext, hc, hchanges⟩
  · refine ⟨String.ofList ('a' :: text.toList), ?_, ?_⟩
    · rw [String.toList_ofList]
      exact (List.suffix_cons _ _).isInfix
    · have hlower : lowerAfter [] ('a' :: text.toList) =
          'a' :: lowerBetween ['a'] text.toList [] := by
        rw [Text.lowerBetween_nil]
        rfl
      rw [accepts_withText_iff, String.toList_ofList, hlower]
      apply not_infix_cons
      · rw [← Text.lowerBetween_nil, Text.length_lowerBetween]
      · exact fun heq => hchanges ((Text.lowerBetween_eq_iff ..).mp heq.symm)
      · rw [htext]
        exact Text.letter_notMem_head? hc rest
  · refine ⟨String.ofList (text.toList ++ ['a']), ?_, ?_⟩
    · rw [String.toList_ofList]
      exact (List.prefix_append _ _).isInfix
    · have hlower : lowerAfter [] (text.toList ++ ['a']) =
          lowerBetween [] text.toList ['a'] ++ ['a'] := by
        rw [Text.lowerAfter_append]
        rfl
      rw [accepts_withText_iff, String.toList_ofList, hlower]
      apply not_infix_concat
      · rw [← Text.lowerBetween_nil, Text.length_lowerBetween]
      · exact fun heq => hchanges ((Text.lowerBetween_eq_iff ..).mp heq.symm)
      · rw [htext]
        exact Text.letter_notMem_getLast? hc front

/-! ## Verbatim occurrences -/

/-- Every message that holds a text verbatim is found exactly if the text has no sigma at an
end. Any text is found in a message in which its sigmas keep their forms. -/
theorem accepts_verbatim_iff (text : String) :
    ((∀ entry : Entry, text.toList <:+: entry.message.toList →
        (all.withText text).accepts entry = true) ↔ ¬ SigmaAtEnd text.toList) ∧
      ∀ (entry : Entry) (before after : List Char),
        entry.message.toList = before ++ text.toList ++ after →
          KeepsForms before.reverse text.toList after →
            (all.withText text).accepts entry = true := by
  refine ⟨⟨?_, ?_⟩, fun entry before after => accepts_of_keepsForms⟩
  · intro hall hsigma
    obtain ⟨message, hinfix, hmissed⟩ :=
      exists_not_accepts_of_sigmaAtEnd hsigma 0 ⟨"web"⟩ .stdout
    exact hmissed (hall _ hinfix)
  · rintro hnone entry ⟨before, after, hmessage⟩
    exact accepts_of_keepsForms hmessage.symm (Text.keepsForms_of_not_sigmaAtEnd hnone _ _)

/-- The last sigma of a text on its own ends a word; in the message the word goes on. -/
theorem exists_not_accepts_verbatim :
    ¬ ∀ (text : String) (entry : Entry), text.toList <:+: entry.message.toList →
      (all.withText text).accepts entry = true := by
  intro h
  have hmissed : (all.withText "ΑΣ").accepts ⟨1, ⟨"web"⟩, .stdout, "ΑΣΑ"⟩ = false := by
    decide +kernel
  have hfound := h "ΑΣ" ⟨1, ⟨"web"⟩, .stdout, "ΑΣΑ"⟩ ⟨[], ['Α'], by decide⟩
  rw [hmissed] at hfound
  exact Bool.false_ne_true hfound

end Dashboard.Log.Filter
