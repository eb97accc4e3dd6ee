import BenchBoard.Catalogue.Registry
/-!
# BenchBoard.Samples.Pairs

**Two cases of two files each.** The files hold one record, and the second case names a file that
does not exist. Everything is small enough to be evaluated.
-/

namespace BenchBoard.Samples

/-- A case that can be selected, and one of which the second file is lost. -/
def pairs : Description where
  toList := [("list",
    [ ⟨"push_back", "", [⟨"nodes", "nodes.csv", true⟩, ⟨"flat", "flat.csv", false⟩]⟩,
      ⟨"insert", "", [⟨"nodes", "nodes.csv", true⟩, ⟨"lost", "lost.csv", false⟩]⟩ ])]
  sorted := by simp

/-- The first case before it is loaded. -/
def pushBack : Case where
  name := "push_back"
  description := ""
  entries := [{ name := "nodes", file := "nodes.csv", marked := true },
    { name := "flat", file := "flat.csv", marked := false }]
  baseline := 0
  baseline_lt := by decide

/-- The second case before it is loaded. -/
def insertion : Case where
  name := "insert"
  description := ""
  entries := [{ name := "nodes", file := "nodes.csv", marked := true },
    { name := "lost", file := "lost.csv", marked := false }]
  baseline := 0
  baseline_lt := by decide

/-- The registry of both cases, which compares times. -/
def pairsRegistry : Registry where
  topics := ⟨[("list", [pushBack, insertion])], by simp⟩
  selection := .idle
  comparisons := []
  metrics := [⟨realTimeField, false⟩]
  loader := ⟨.noRetry, .standard, 20⟩

/-- All files but the lost one have the same text. -/
def pairFiles : Source Unit where
  size path state :=
    (if path = "lost.csv" then .error ⟨.notFound, "entity not found"⟩ else .ok 20, state)
  read _ state := (.ok "name,real_time\nA/8,1", state)

/-- The same files, but the first question is not answered. -/
def latePairFiles : Source Bool where
  size path asked :=
    (if asked then (pairFiles.size path ()).1 else .error ⟨.interrupted, "interrupted"⟩, true)
  read path asked := ((pairFiles.read path ()).1, asked)

/-- The same files, but the second file of the first case holds no record. -/
def unevenFiles : Source Unit where
  size path state := (if path = "flat.csv" then .ok 14 else (pairFiles.size path ()).1, state)
  read path state :=
    (if path = "flat.csv" then .ok "name,real_time" else (pairFiles.read path ()).1, state)

/-- The same files, but the second file of the first case has other fields, one of them called
like the column with the names of the entries. -/
def taggedFiles : Source Unit where
  size path state := (if path = "flat.csv" then .ok 29 else (pairFiles.size path ()).1, state)
  read path state :=
    (if path = "flat.csv" then .ok "name,entry,cpu_time\nA/8,left," else (pairFiles.read path ()).1,
      state)

/-- The first case with these files. -/
def taggedCase : Case :=
  (pushBack.loadAll ⟨.noRetry, .standard, 29⟩ taggedFiles ⟨(), #[]⟩).2.1

end BenchBoard.Samples
