import LayeredConfig.Proofs.EnvFile.Trailing
import LayeredConfig.Proofs.Table.Overlay

/-! Env files line by line. Each line is read for itself, and what ends it is no part of it. -/
namespace LayeredConfig.EnvFile
open Text

private theorem parse_append_newline (a b : String) :
    parse (a ++ "\n" ++ b) = (parse a).merge (parse b) := by
  have chars : (a ++ "\n" ++ b).toList = a.toList ++ '\n' :: b.toList := by simp
  rw [parse, parse, parse, chars, filterMap_lines_append entry?_closeLine rfl, Table.ofList_append]

/-- A text that goes on in a new line sets the variables of both parts, those of the second part
over those of the first. How lines end makes no difference, and nor does whether the last one does,
whatever stands in them. -/
theorem parse_line_by_line :
    (∀ a b : String, parse (a ++ "\n" ++ b) = (parse a).merge (parse b)) ∧
    ∀ t : String, parse (String.ofList (withReturns t.toList)) = parse t ∧
      parse (t ++ "\n") = parse t := by
  refine ⟨parse_append_newline, fun t => ⟨?_, ?_⟩⟩
  · rw [parse, parse, String.toList_ofList, filterMap_lines_withReturns entry?_closeLine]
  · have last : parse (t ++ "\n" ++ "") = (parse t).merge .empty := parse_append_newline t ""
    rwa [String.append_empty, Table.merge_empty] at last

/-- A carriage return of the line itself, in front of the one that ends it, and one behind a
backslash in quotes that are not closed. -/
example : (parse "K=\"a\\\r\r\nJ= 'b' \r").entries = [("K", "\"a\\"), ("J", "b")] := by
  decide +kernel

end LayeredConfig.EnvFile
