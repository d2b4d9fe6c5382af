import GraphBatch.Proofs.Refusal
import GraphBatch.Proofs.ReportedTables
import GraphBatch.Transport.Header

/-!
# Maps of headers

Headers are written into a map one after the other, each after a check. The first
one that cannot be sent decides the error. If all can be sent, the map holds under a
name the last value that was written under it, in whatever case.
-/

namespace GraphBatch

namespace Header

def isSendable (header : String × String) : Bool :=
  isName header.1 && isValue header.2

/-- What a header is refused for: its name, or else its value. -/
inductive Refused (shown : String → String) (header : String × String) : Error → Prop
  | name (unnamed : isName header.1 = false) : Refused shown header (invalidName header.1)
  | value (named : isName header.1 = true) (unfit : isValue header.2 = false) :
      Refused shown header (invalidValue (shown header.1))

variable {shown : String → String} {header : String × String}

theorem Refused.unique {first second : Error} (one : Refused shown header first)
    (other : Refused shown header second) : first = second := by
  cases one with
  | name unnamed =>
      cases other with
      | name _ => rfl
      | value named _ => cases unnamed.symm.trans named
  | value named _ =>
      cases other with
      | name unnamed => cases unnamed.symm.trans named
      | value _ _ => rfl

theorem refused_of_not_sendable (shown : String → String)
    (unsendable : isSendable header = false) : ∃ error, Refused shown header error := by
  cases named : isName header.1 with
  | false => exact ⟨_, .name named⟩
  | true =>
      rw [isSendable, named, Bool.true_and] at unsendable
      exact ⟨_, .value named unsendable⟩

theorem not_refused_iff :
    (∀ error, ¬ Refused shown header error) ↔ isSendable header = true := by
  constructor
  · intro fine
    by_contra unsendable
    obtain ⟨error, refused⟩ := refused_of_not_sendable shown (Bool.eq_false_iff.mpr unsendable)
    exact fine error refused
  · intro sendable error refused
    obtain ⟨named, fit⟩ := Bool.and_eq_true_iff.mp sendable
    cases refused with
    | name unnamed => simp [unnamed] at named
    | value _ unfit => simp [unfit] at fit

end Header

namespace HeaderMap

variable {shown : String → String} {headers map : HeaderMap} {pairs : List (String × String)}

/-- The first header that cannot be sent decides. -/
theorem putAll_eq_error_iff {error : Error} :
    putAll shown headers pairs = .error error ↔
      FirstRefusal (Header.Refused shown) pairs error := by
  induction pairs generalizing headers with
  | nil => exact iff_of_false (fun failed => nomatch failed) FirstRefusal.not_nil
  | cons header rest ih =>
      cases sendable : Header.isSendable header with
      | true =>
          obtain ⟨named, fit⟩ := Bool.and_eq_true_iff.mp sendable
          rw [FirstRefusal.cons_of_fine (Header.not_refused_iff.mpr sendable), putAll,
            if_neg (not_not_intro named), if_neg (not_not_intro fit)]
          exact ih
      | false =>
          obtain ⟨fault, refused⟩ := Header.refused_of_not_sendable shown sendable
          have stops : putAll shown headers (header :: rest) = .error fault := by
            cases refused with
            | name unnamed => rw [putAll, if_pos (by simp [unnamed])]
            | value named unfit =>
                rw [putAll, if_neg (not_not_intro named), if_pos (by simp [unfit])]
          rw [FirstRefusal.cons_iff, stops]
          constructor
          · intro same
            exact Or.inl (Except.error.inj same ▸ refused)
          · rintro (other | ⟨fine, _⟩)
            · rw [refused.unique other]
            · exact absurd refused (fine fault)

theorem exists_putAll_iff :
    (∃ map, putAll shown headers pairs = .ok map) ↔
      ∀ header ∈ pairs, Header.isSendable header = true := by
  rw [Outcome.exists_ok_iff fun error => putAll_eq_error_iff, FirstRefusal.none_iff]
  exact forall₂_congr fun header _ => Header.not_refused_iff

theorem putAll_eq_ok (made : putAll shown headers pairs = .ok map) :
    map = pairs.foldl (fun held header => held.put header.1 header.2) headers := by
  induction pairs generalizing headers with
  | nil => exact (Except.ok.inj made).symm
  | cons header rest ih =>
      unfold putAll at made
      split at made
      · cases made
      · split at made
        · cases made
        · exact ih made

/-- A map holds the last of the values whose names differ in case only. -/
theorem find?_ofPairs (made : ofPairs pairs = .ok map) (name : String) :
    map.find? name =
      (pairs.reverse.find? fun header => header.1.toLower = name.toLower).map Prod.snd := by
  rw [putAll_eq_ok made]
  exact Entries.find?_foldl_put (fun header => header.1.toLower) Prod.snd pairs name.toLower

end HeaderMap

end GraphBatch
