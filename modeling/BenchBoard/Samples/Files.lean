import BenchBoard.Samples.Writer
/-!
# BenchBoard.Samples.Files

**Sample result files.** Runs of a benchmark of list types, each with a path: three types that
were measured alike, two of them once more with memory reserved, and four files that are
good for errors: one with fewer sizes, one with a time of zero, one that mixes two cases,
and one with a record that is too short.
-/

namespace BenchBoard.Samples

/-- The sizes that were measured. -/
def sizes : List Nat := [8, 64, 512, 4096]

/-- Samples with the same wall-clock and processor times. -/
def samplesOf (times : List Float) : List Sample :=
  sizes.zipWith (fun size time => ⟨size, time, time⟩) times

/-- A list of nodes. It grows in linear time. -/
def stdList : String :=
  resultFile "BM_push_back<std::list<int>>" (samplesOf [40.0, 310.0, 2480.0, 19900.0])
    (some ⟨"N", 4.86, 4.85, 0.02, 0.02⟩)

/-- A list in one piece of memory, twice as fast. -/
def flatList : String :=
  resultFile "BM_push_back<flat_list<int, uint32_t>>"
    (samplesOf [20.0, 155.0, 1240.0, 9950.0]) (some ⟨"N", 2.43, 2.43, 0.03, 0.03⟩)

/-- A list in two pieces of memory, half as fast, with a fit of its own. -/
def splitList : String :=
  resultFile "BM_push_back<split_list<int, uint32_t>>"
    (samplesOf [80.0, 620.0, 4960.0, 39800.0]) (some ⟨"NlgN", 0.81, 0.8, 0.11, 0.1⟩)

/-- The list of nodes with memory reserved; no complexity was fitted. -/
def stdListReserved : String :=
  resultFile "BM_push_back_with_reserve<std::list<int>>"
    (samplesOf [42.0, 320.0, 2500.0, 20000.0]) none

/-- The list in one piece with memory reserved; no complexity was fitted. -/
def flatListReserved : String :=
  resultFile "BM_push_back_with_reserve<flat_list<int, uint32_t>>"
    (samplesOf [10.5, 80.0, 625.0, 5000.0]) none

/-- A run that misses the last size. -/
def shortList : String :=
  resultFile "BM_push_back<short_list<int>>" (samplesOf [10.0, 10.0, 10.0]) none

/-- A run with a time that was too short to measure. -/
def zeroList : String :=
  resultFile "BM_push_back<zero_list<int>>" (samplesOf [20.0, 0.0, 1240.0, 9950.0]) none

/-- A file with samples of two cases. -/
def inconsistent : String :=
  unlines [header, "\"A/8\",1,10,10,ns,,,,,", "\"B/16\",1,20,20,ns,,,,,"]

/-- A file with a record of four fields. -/
def truncated : String :=
  unlines [header, "\"A/8\",1,10,10"]

/-- All sample files with their paths. -/
def files : List (String × String) :=
  [("list/push_back/std_list.csv", stdList),
    ("list/push_back/flat_list.csv", flatList),
    ("list/push_back/split_list.csv", splitList),
    ("list/push_back_with_reserve/std_list.csv", stdListReserved),
    ("list/push_back_with_reserve/flat_list.csv", flatListReserved),
    ("broken/short_list.csv", shortList),
    ("broken/zero_list.csv", zeroList),
    ("broken/inconsistent.csv", inconsistent),
    ("broken/truncated.csv", truncated)]

end BenchBoard.Samples
