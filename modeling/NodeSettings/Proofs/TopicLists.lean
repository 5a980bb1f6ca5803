/-
# NodeSettings.Proofs.TopicLists -- a list of topics is read part by part

Each element of a list gives one topic, whatever stands before it; what does depend on
what stands before it is its index, and whether its mismatch is the first.  So the
mismatches of two lists put together are those of the first and those of the second,
raised by the length of the first (`topicMismatches_append`, `topicMismatches_raised`).

`FirstWrong` says without a recorder which mismatch that leaves: the one of the first
element that is neither a string nor null.  Reading a list gives its topics and that
mismatch (`readsList`), and reading two lists put together gives what reading each of
them does (`topics_compose`).
-/
import NodeSettings.Proofs.Messages
import NodeSettings.Proofs.Recording

namespace NodeSettings

set_option autoImplicit false

/-! ## Elements further on -/

/-- The item a number of elements further on. -/
def Item.raised (n : Nat) : Item → Item
  | topic i => topic (i + n)
  | item => item

def Mismatch.raised (n : Nat) (m : Mismatch) : Mismatch :=
  { m with item := m.item.raised n }

/-- What the message about an element says, and where. -/
theorem Mismatch.text_topic (i : Nat) (found : Found) :
    text ⟨.topic i, found⟩ =
      "networkConfig.topics[" ++ toString i ++ "]: invalid type: " ++ found.text .compact ++
        ", expected a string" := by
  have path : (Item.topic i).path? = some ("networkConfig.topics[" ++ toString i ++ "]") := rfl
  have complaint : complaint ⟨.topic i, found⟩ = "invalid type" := rfl
  have between : "]: invalid type: " = "]" ++ ": " ++ "invalid type" ++ ": " := rfl
  have after : ", expected a string" = ", expected " ++ Wanted.string.text := rfl
  rw [text_eq, message, path, what_eq, complaint, between, after]
  simp only [String.append_assoc, Item.layout, Item.wanted]

/-- Nothing is wrong with an element that is a string, or null for no topic at all. -/
def Json.Topical (value : Json) : Prop :=
  value = .null ∨ ∃ text, value = .string text

/-- The mismatch of the first element with which something is wrong, if there is one. -/
inductive FirstWrong : List Json → Option Mismatch → Prop where
  | absent {values : List Json} (topical : ∀ value ∈ values, value.Topical) :
      FirstWrong values none
  | stands {before rest : List Json} {value : Json} {found : Found}
      (topical : ∀ value ∈ before, value.Topical) (wrong : ¬ value.Topical)
      (isFound : Found.of? value = some found) :
      FirstWrong (before ++ value :: rest) (some ⟨.topic before.length, found⟩)

theorem FirstWrong.append {xs ys : List Json} {m n : Option Mismatch} (first : FirstWrong xs m)
    (second : FirstWrong ys n) :
    FirstWrong (xs ++ ys) (m.or (n.map (Mismatch.raised xs.length))) := by
  cases first with
  | absent topical =>
      -- The first list only moves the elements of the second further on.
      have both {zs : List Json} (others : ∀ value ∈ zs, value.Topical) :
          ∀ value ∈ xs ++ zs, value.Topical :=
        List.forall_mem_append.mpr ⟨topical, others⟩
      cases second with
      | absent others => exact .absent (both others)
      | @stands before rest value found others wrong isFound =>
          have index : before.length + xs.length = (xs ++ before).length := by
            rw [List.length_append, Nat.add_comm]
          rw [← List.append_assoc, Option.none_or, Option.map_some, Mismatch.raised, Item.raised,
            index]
          exact .stands (both others) wrong isFound
  | stands topical wrong isFound =>
      -- Whatever the second list holds comes later.
      rw [List.append_assoc, List.cons_append, Option.some_or]
      exact .stands topical wrong isFound

theorem FirstWrong.told {values : List Json} {m : Mismatch} (first : FirstWrong values (some m)) :
    ∃ i, m.item = .topic i ∧
      m.text = "networkConfig.topics[" ++ toString i ++ "]: invalid type: " ++
        m.found.text .compact ++ ", expected a string" := by
  cases first with
  | stands topical wrong isFound => exact ⟨_, rfl, Mismatch.text_topic _ _⟩

namespace Recorder

theorem topicMismatch?_raised (i n : Nat) (value : Option Json) :
    (Item.topic (i + n)).mismatch? value =
      ((Item.topic i).mismatch? value).map (Mismatch.raised n) := by
  cases value with
  | none => rfl
  | some v => cases v <;> rfl

/-- **Elements further on are wrong in the same way**, under a higher index. -/
theorem topicMismatches_raised (start n : Nat) (values : List Json) :
    topicMismatches (start + n) values =
      (topicMismatches start values).map (Mismatch.raised n) := by
  induction values generalizing start with
  | nil => rfl
  | cons value rest ih =>
      rw [topicMismatches, topicMismatches, List.map_append, topicMismatch?_raised,
        Nat.add_right_comm, ih, Option.toList_map]

theorem topicMismatches_append (start : Nat) (xs ys : List Json) :
    topicMismatches start (xs ++ ys) =
      topicMismatches start xs ++ topicMismatches (start + xs.length) ys := by
  induction xs generalizing start with
  | nil => rfl
  | cons x rest ih =>
      rw [List.cons_append, topicMismatches, topicMismatches, ih, List.length_cons,
        List.append_assoc, Nat.add_right_comm, Nat.add_assoc]

theorem firstWrong_one (value : Json) :
    FirstWrong [value] ((Item.topic 0).mismatch? (some value)) := by
  have topical (fine : value.Topical) : FirstWrong [value] none :=
    .absent fun other member => List.mem_singleton.mp member ▸ fine
  have wrong {found : Found} (unfit : ¬ value.Topical) (isFound : Found.of? value = some found) :
      FirstWrong [value] (some ⟨.topic 0, found⟩) :=
    @FirstWrong.stands [] [] value found (List.forall_mem_nil _) unfit isFound
  cases value with
  | null => exact topical (.inl rfl)
  | string text => exact topical (.inr ⟨text, rfl⟩)
  | unit | bool _ | number _ | array _ | object _ => exact wrong (by simp [Json.Topical]) rfl

/-- By one element after the other. -/
theorem firstWrong_topicMismatches (values : List Json) :
    FirstWrong values (topicMismatches 0 values).head? := by
  induction values with
  | nil => exact .absent (List.forall_mem_nil _)
  | cons value rest ih =>
      have both := (firstWrong_one value).append ih
      rw [topicMismatches, topicMismatches_raised, List.head?_append, Option.head?_toList,
        List.head?_map]
      exact both

/-- Reading a list gives `topics`, and `wrong` is what is wrong with it. -/
structure ReadsList (values : List Json) (topics : List String) (wrong : Option Mismatch) :
    Prop where
  /-- One topic for each element, in their order. -/
  each : topics = values.map topicOf
  first : FirstWrong values wrong
  /-- It is told under the index of the element. -/
  told : ∀ m, wrong = some m → ∃ i, m.item = .topic i ∧
    m.text = "networkConfig.topics[" ++ toString i ++ "]: invalid type: " ++
      m.found.text .compact ++ ", expected a string"
  /-- So it goes where nothing was recorded before. -/
  fresh : (Recorder.topics (some (.array values))).run none = (some topics, wrong)
  /-- What was recorded before stays, and has no part in the topics. -/
  held : ∀ m, (Recorder.topics (some (.array values))).run (some m) = (some topics, some m)

theorem readsList (values : List Json) :
    ReadsList values (values.map topicOf) (topicMismatches 0 values).head? := by
  have reads : Reports (topics (some (.array values))) (some (values.map topicOf))
      (topicMismatches 0 values) :=
    topics_reports (some (.array values))
  exact {
    each := rfl
    first := firstWrong_topicMismatches values
    told := fun m same => FirstWrong.told (same ▸ firstWrong_topicMismatches values)
    fresh := by rw [reads none, Option.none_or]
    held := fun m => reads (some m) }

/-- **Two lists put together are read as each of them is**: the topics one after the
other, and of the mismatches the first, with the index it has in the whole. -/
theorem topics_compose (xs ys : List Json) :
    ∃ ts us m n, ReadsList xs ts m ∧ ReadsList ys us n ∧
      ReadsList (xs ++ ys) (ts ++ us) (m.or (n.map (Mismatch.raised xs.length))) ∧
      (ts ++ us).length = xs.length + ys.length := by
  have together := readsList (xs ++ ys)
  rw [List.map_append, topicMismatches_append, topicMismatches_raised, List.head?_append,
    List.head?_map] at together
  refine ⟨_, _, _, _, readsList xs, readsList ys, together, ?_⟩
  rw [List.length_append, List.length_map, List.length_map]

/-- The number is the third element of the whole and the first of its part. -/
example :
    (topics (some (.array ([.string "a", .null] ++ [.number (.integer 7), .string "b"])))).run none =
      (some ["a", "", "", "b"], some ⟨.topic 2, .number (.integer 7)⟩) := by
  rfl

end Recorder

end NodeSettings
