import StoryGraph.NodeType.Catalog
import StoryGraph.Proofs.Text.Casing

/-!
The types that tags stand for. Texts of different sizes never name the same thing, so only tags of the size of
a text need to be compared with it letter by letter. The tags of events are different from all others, and a text
stands for an event exactly if it is the tag of that event but for case and the white space around it.
-/

namespace StoryGraph.NodeType

theorem ofTag?_eq (s : String) :
    ofTag? s = all.find? fun t =>
      t.tag.utf8ByteSize == (Text.trim s).utf8ByteSize && Text.sameName t.tag (Text.trim s) := by
  rw [ofTag?]
  refine congrArg (fun p => all.find? p) (funext fun t => ?_)
  cases same : Text.sameName t.tag (Text.trim s) with
  | true => simp [Text.size_of_sameName same]
  | false => simp

theorem trim_tag_event (t : EventType) : Text.trim (event t).tag = (event t).tag := by
  cases t <;> decide

theorem ofTag?_tag_event (t : EventType) : ofTag? (event t).tag = some (event t) := by
  rw [ofTag?_eq]
  cases t <;> decide

theorem ofTag?_congr_trim {a b : String} (same : Text.fold (Text.trim a) = Text.fold (Text.trim b)) :
    ofTag? a = ofTag? b := by
  simp only [ofTag?, Text.sameName, same]

theorem ofTag?_eq_some_event_iff {s : String} {t : EventType} :
    ofTag? s = some (event t) ↔ Text.fold (Text.trim s) = Text.fold (event t).tag := by
  constructor
  · intro named
    rw [ofTag?] at named
    have same := List.find?_some named
    exact (Text.sameName_iff.1 same).symm
  · intro same
    rw [← trim_tag_event] at same
    rw [ofTag?_congr_trim same, ofTag?_tag_event]

end StoryGraph.NodeType
