import BenchBoard.Catalogue.Description
/-!
# BenchBoard.Samples.Descriptions

**Sample descriptions.** A description of cases over the sample files, and two that no
registry can be built of. They are written with the members of every object in the order of
their names.
-/

namespace BenchBoard.Samples

open BenchBoard.Json

/-- The name of the file with the sample description. -/
def descriptionFile : String := "cases.json"

/-- The baseline of most cases. -/
def nodes : EntrySpec := ⟨"std::list", "list/push_back/std_list.csv", true⟩

/-- The cases whose files can be compared. -/
def listCases : List CaseSpec :=
  [ ⟨"push_back", "Append N elements one at a time",
      [nodes, ⟨"flat_list", "list/push_back/flat_list.csv", false⟩,
        ⟨"split_list", "list/push_back/split_list.csv", false⟩]⟩,
    ⟨"push_back_with_reserve", "Reserve N elements, then append them",
      [⟨"flat_list", "list/push_back_with_reserve/flat_list.csv", false⟩,
        ⟨"std::list", "list/push_back_with_reserve/std_list.csv", false⟩]⟩ ]

/-- The cases with a fault of some kind. -/
def brokenCases : List CaseSpec :=
  [ ⟨"misaligned", "Entries measured at different sizes",
      [nodes, ⟨"short_list", "broken/short_list.csv", false⟩]⟩,
    ⟨"inconsistent", "Result file mixing two benchmarks",
      [⟨"mixed", "broken/inconsistent.csv", false⟩]⟩,
    ⟨"zero", "Entry with a zero measurement",
      [nodes, ⟨"zero_list", "broken/zero_list.csv", false⟩]⟩,
    ⟨"truncated", "Result file with a short row",
      [⟨"truncated", "broken/truncated.csv", false⟩]⟩ ]

/-- The sample description. -/
def description : Description :=
  Topics.ofList [("list", listCases), ("broken", brokenCases)]

def descriptionText : String :=
  description.toJson.sorted.pretty

/-- The paths of the files that the sample description names, in its order. -/
def referencedFiles : List String :=
  description.toList.flatMap fun topic =>
    topic.2.flatMap fun spec => spec.entries.map (·.file)

/-- A description of a case with two baselines. -/
def twoBaselines : Description :=
  Topics.ofList [("list", [⟨"push_back", "",
    [⟨"a", "list/push_back/std_list.csv", true⟩,
      ⟨"b", "list/push_back/flat_list.csv", true⟩]⟩])]

/-- A description of a case without entries. -/
def emptyCase : Description :=
  Topics.ofList [("list", [⟨"nothing", "", []⟩])]

def compactText (description : Description) : String :=
  description.toJson.sorted.compact

end BenchBoard.Samples
