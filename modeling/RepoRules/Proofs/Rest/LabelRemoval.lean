import RepoRules.Proofs.Net.Segments
import RepoRules.Proofs.Rest.Bases

/-!
What the removal of labels asks for. One request is sent for each label, in order, until one of them
fails; it deletes what stands under the labels of the item by the name of the label. That is the
label itself unless it is a dot or two dots, or holds a tab or a line end: a dot and two dots stand
for all labels of the item.
-/

namespace RepoRules.Rest

variable {τ : Type}

def Transport.noting (transport : Transport τ) : Transport (τ × List Request) where
  send request state :=
    let (result, after) := transport.send request state.1
    (result, (after, state.2 ++ [request]))

def Transport.Obliges (transport : Transport τ) : Prop :=
  ∀ request state, ∃ response, (transport.send request state).1 = .ok response ∧
    (response.isSuccess = true ∨ response.status = 404)

namespace Api

variable (api : Api τ)

def noting : Api (τ × List Request) :=
  ⟨api.transport.noting, api.base, api.token, api.repository⟩

def request (method : Method) (url : Url) (accept : String) (body : Option Json) : Request :=
  ⟨method, url, some accept, some apiVersion, some (.bearer api.token), body⟩

def labelsPath (names : List String) (number : Nat) : List String :=
  ["repos", api.repository.owner, api.repository.name, "issues", toString number, "labels"].foldl
    Url.pushSegment (Url.withoutFinalSlash names)

def labelUrl (names : List String) (number : Nat) (label : String) : Url :=
  { api.base with path := .segments (Url.pushSegment (api.labelsPath names number) label) }

def removal (names : List String) (number : Nat) (label : String) : Request :=
  api.request .delete (api.labelUrl names number label) jsonAccept none

section Sending

theorem run_send (transport : Transport τ) (request : Request) (state : τ) :
    (send transport request).run.run state =
      ((transport.send request state).1.mapError (httpFailure none),
        (transport.send request state).2) := by
  rcases sent : transport.send request state with ⟨message | response, after⟩
  · simp only [send, run_bind, run_get, sent]
    rfl
  · simp only [send, run_bind, run_get, sent]
    rfl

def judged (answer : Except String Response) : Except Failure Response :=
  match answer with
  | .ok response => if response.isSuccess then .ok response else .error (statusFailure response)
  | .error message => .error (httpFailure none message)

theorem run_perform (method : Method) (url : Url) (accept : String) (body : Option Json)
    (state : τ) :
    (api.perform method url accept body).run.run state =
      (judged (api.transport.send (api.request method url accept body) state).1,
        (api.transport.send (api.request method url accept body) state).2) := by
  rw [perform, run_bind, run_send, request]
  rcases api.transport.send
    ⟨method, url, some accept, some apiVersion, some (.bearer api.token), body⟩ state with
    ⟨message | response, after⟩
  · rfl
  · cases success : response.isSuccess with
    | true => simp only [Except.mapError, judged, success]; rfl
    | false => simp only [Except.mapError, judged, success]; rfl

/-- What the answer to the removal of a label is taken for: that it was not there is no failure. -/
def settled (answer : Except String Response) : Except Failure Unit :=
  match judged answer with
  | .ok _ => .ok ()
  | .error failure => if isNotFound failure then .ok () else .error failure

theorem settled_eq_ok {response : Response}
    (passed : response.isSuccess = true ∨ response.status = 404) :
    settled (.ok response) = .ok () := by
  cases success : response.isSuccess with
  | true =>
      rw [settled, judged, success]
      rfl
  | false =>
      rw [success] at passed
      have missing := passed.resolve_left Bool.false_ne_true
      have absent : isNotFound (statusFailure response) = true := by
        unfold isNotFound statusFailure
        rw [missing]
        rfl
      rw [settled, judged, success]
      change (if isNotFound (statusFailure response) then _ else _) = _
      rw [if_pos absent]

theorem run_deletion (url : Url) (state : τ) :
    (tryCatch (do let _ ← api.perform .delete url jsonAccept none)
        fun failure => if isNotFound failure then return else throw failure :
          Exchange τ Unit).run.run state =
      (settled (api.transport.send (api.request .delete url jsonAccept none) state).1,
        (api.transport.send (api.request .delete url jsonAccept none) state).2) := by
  rw [run_catch, run_bind, run_perform, settled]
  cases judged (api.transport.send (api.request .delete url jsonAccept none) state).1 with
  | ok response => rfl
  | error failure =>
      cases missing : isNotFound failure with
      | true => simp only [missing]; rfl
      | false => simp only [missing]; rfl

theorem repository_url_of_label {names : List String} (divided : api.base.path = .segments names)
    (number : Nat) (label : String) :
    api.repositoryUrl ["issues", toString number, "labels", label] =
      pure (api.labelUrl names number label) := by
  rw [repositoryUrl, urlUnder, Url.extend_of_segments divided]
  rfl

/-- One request is sent for each label, in order; the removal goes on as long as none of them
fails. -/
theorem run_remove_labels {names : List String} (divided : api.base.path = .segments names)
    (number : Nat) (labels : List String) (state : τ) (sent : List Request) :
    ∃ result after count, (api.noting.removeLabels number labels).run.run (state, sent) =
        (result, (after, sent ++ (labels.take count).map (api.removal names number))) ∧
      count ≤ labels.length ∧ (result = .ok () → count = labels.length) ∧
      ((∀ request current, settled (api.transport.send request current).1 = .ok ()) →
        result = .ok ()) := by
  -- what was sent before is arbitrary, as it grows with every label
  induction labels generalizing state sent with
  | nil =>
      refine ⟨.ok (), state, 0, ?_, Nat.le_refl _, fun _ => rfl, fun _ => rfl⟩
      rw [List.take_nil, List.map_nil, List.append_nil]
      rfl
  | cons label rest induction =>
      have address : api.noting.repositoryUrl ["issues", toString number, "labels", label] =
          pure (api.labelUrl names number label) :=
        api.noting.repository_url_of_label divided number label
      have asked : api.noting.transport.send
          (api.noting.request .delete (api.labelUrl names number label) jsonAccept none)
          (state, sent) =
        ((api.transport.send (api.removal names number label) state).1,
          ((api.transport.send (api.removal names number label) state).2,
            sent ++ [api.removal names number label])) := rfl
      rw [removeLabels, address, pure_bind, run_bind, run_deletion, asked]
      rcases sending : api.transport.send (api.removal names number label) state with
        ⟨answer, current⟩
      cases answered : settled answer with
      | ok _ =>
          obtain ⟨result, after, count, run, bounded, complete, succeeds⟩ :=
            induction current (sent ++ [api.removal names number label])
          refine ⟨result, after, count + 1, ?_, Nat.succ_le_succ bounded,
            fun ended => congrArg (· + 1) (complete ended), succeeds⟩
          dsimp only
          rw [run, List.take_succ_cons, List.map_cons, List.append_assoc, List.singleton_append]
      | error failure =>
          refine ⟨.error failure, current, 1, ?_, Nat.succ_le_succ (Nat.zero_le _), nofun, ?_⟩
          · rw [List.take_succ_cons, List.take_zero]
            rfl
          · intro settles
            have passed := settles (api.removal names number label) state
            rw [sending, answered] at passed
            cases passed

end Sending

section Addresses

variable (names : List String) (number : Nat)

theorem exists_labels_path : ∃ before, api.labelsPath names number = before ++ ["labels"] := by
  have ends (before : List String) :
      Url.pushSegment before "labels" = Url.front before ++ ["labels"] := by
    rw [Url.push_segment_eq, if_neg (by decide), if_neg (by decide), if_neg (by decide)]
    rfl
  exact ⟨_, ends _⟩

theorem labels_path_filled : api.labelsPath names number ≠ [""] := by
  obtain ⟨before, path⟩ := api.exists_labels_path names number
  rw [path]
  exact Url.filled_of_last (by decide)

structure Addresses : Prop where
  /-- The labels of an item stand where they are said to. -/
  collection : Url.IsWritten api.repository.owner → Url.IsWritten api.repository.name →
    ∃ texts, api.labelsPath names number = Url.front (Url.withoutFinalSlash names) ++ texts ∧
      List.Forall₂ Url.Stands texts
        ["repos", api.repository.owner, api.repository.name, "issues", toString number, "labels"]
  /-- A label is one more segment, and read as such, just if all of it is written. -/
  single : ∀ label, (∃ written, (api.labelUrl names number label).path =
      .segments (api.labelsPath names number ++ [written]) ∧ Url.Stands written label) ↔
    Url.IsWritten label
  apart : ∀ label other, Url.IsWritten label → Url.IsWritten other →
    api.labelUrl names number label = api.labelUrl names number other → label = other
  /-- Which labels stand for all labels of the item. -/
  whole : ∀ label, ((api.labelUrl names number label).path =
        .segments (api.labelsPath names number) ∨
      (api.labelUrl names number label).path =
        .segments (api.labelsPath names number ++ [""])) ↔
    label = "." ∨ label = ".." ∨ Url.visible label = "" ∨ Url.visible label = "."
  /-- Which labels stand for something beside the labels of the item. -/
  beside : ∀ label, label ≠ ".." → Url.visible label = ".." →
    (api.labelUrl names number label).path =
      .segments ((api.labelsPath names number).dropLast ++ [""])

theorem addresses : api.Addresses names number where
  collection owner name := by
    obtain ⟨first, pushed, stands⟩ := Url.push_written (Url.withoutFinalSlash names)
      (by decide : Url.IsWritten "repos")
    have named : first ≠ "" := by
      rintro rfl
      exact absurd stands.eq_empty (by decide)
    have others : ∀ segment ∈ [api.repository.owner, api.repository.name, "issues",
        toString number, "labels"], Url.IsWritten segment := by
      simp only [List.forall_mem_cons, List.not_mem_nil, false_implies, implies_true, and_true]
      exact ⟨owner, name, by decide, Url.written_of_natural number, by decide⟩
    obtain ⟨texts, all, stand⟩ := Url.push_all_written others (Url.filled_of_last named)
      (List.append_ne_nil_of_right_ne_nil _ (List.cons_ne_nil first []))
    refine ⟨first :: texts, ?_, .cons stands stand⟩
    rw [labelsPath, List.foldl_cons, pushed, all, List.append_assoc]
    rfl
  single label := by
    rw [← Url.push_stands_iff (api.labels_path_filled names number)]
    simp only [labelUrl, UrlPath.segments.injEq]
  apart label other written others same := by
    refine Url.push_segment_inj (api.labels_path_filled names number) written others ?_
    exact UrlPath.segments.inj (congrArg Url.path same)
  whole label := by
    obtain ⟨before, path⟩ := api.exists_labels_path names number
    rw [labelUrl, path]
    simp only [UrlPath.segments.injEq]
    exact Url.push_stays_iff (by decide) label
  beside label other dots := by
    have dot : label ≠ "." := by
      rintro rfl
      exact absurd dots (by decide)
    rw [labelUrl, Url.push_segment_eq, if_neg (not_or.2 ⟨dot, other⟩), if_pos dots,
      Url.front_of_filled (api.labels_path_filled names number)]

end Addresses

structure Removes (number : Nat) (label : String) (request : Request) : Prop where
  method : request.method = .delete
  address : ∃ names, api.base.path = .segments names ∧
    request.url = api.labelUrl names number label

theorem removes_of_removal {names : List String} (divided : api.base.path = .segments names)
    (number : Nat) (labels : List String) :
    List.Forall₂ (api.Removes number) labels (labels.map (api.removal names number)) :=
  List.forall₂_map_right_iff.2 <| List.forall₂_same.2 fun _ _ => ⟨rfl, names, divided, rfl⟩

/-- Each request takes off the label in its place; unless one fails there is one for every label. It
is addressed to that label alone just if all of the label is written. -/
theorem removals_address_written_labels (api : Api τ) (number : Nat) (labels : List String)
    (state : τ) :
    (∃ result after sent,
      (api.noting.removeLabels number labels).run.run (state, []) = (result, (after, sent)) ∧
      List.Forall₂ (api.Removes number) (labels.take sent.length) sent ∧
      (result = .ok () → sent.length = labels.length) ∧
      ((∃ names, api.base.path = .segments names) → api.transport.Obliges → result = .ok ())) ∧
    ∀ names, api.base.path = .segments names → api.Addresses names number := by
  refine ⟨?_, fun names _ => api.addresses names number⟩
  cases based : api.base.path with
  | segments names =>
      obtain ⟨result, after, count, run, bounded, complete, succeeds⟩ :=
        api.run_remove_labels based number labels state []
      have many : ((labels.take count).map (api.removal names number)).length = count := by
        rw [List.length_map, List.length_take, Nat.min_eq_left bounded]
      refine ⟨result, after, _, run, ?_, ?_, fun _ obliges => succeeds fun request current => ?_⟩
      · rw [List.nil_append, many]
        exact api.removes_of_removal based number _
      · rw [List.nil_append, many]
        exact complete
      · obtain ⟨response, answered, passed⟩ := obliges request current
        rw [answered, settled_eq_ok passed]
  | plain text =>
      have nowhere : ¬ ∃ names, UrlPath.plain text = .segments names := nofun
      cases labels with
      | nil =>
          exact ⟨.ok (), state, [], rfl, .nil, fun _ => rfl, fun divided => absurd divided nowhere⟩
      | cons label rest =>
          have stranded : Stranded (api.noting.write (.removeLabels number (label :: rest))) :=
            api.noting.stranded_write based nofun
          exact ⟨_, state, [], stranded (state, []), .nil, nofun,
            fun divided => absurd divided nowhere⟩

def granting : Api Unit where
  transport := ⟨fun _ state => (.ok ⟨200, "[]"⟩, state)⟩
  base := ⟨"https", some ⟨"", "", .domain "api.example.com", none⟩, .segments [""], none, none⟩
  token := "token"
  repository := ⟨"octo", "docs"⟩

/-- To take off a dot is to take off all labels. -/
theorem dot_addresses_all_labels :
    ∃ request, (granting.noting.removeLabels 7 ["."]).run.run ((), []) =
        (.ok (), ((), [request])) ∧
      request.method = .delete ∧
      request.url.path = .segments ["repos", "octo", "docs", "issues", "7", "labels"] ∧
      ¬ ∃ written, request.url.path =
        .segments ["repos", "octo", "docs", "issues", "7", "labels", written] := by
  have path : (granting.labelUrl [""] 7 ".").path =
      .segments ["repos", "octo", "docs", "issues", "7", "labels"] := by decide
  refine ⟨granting.removal [""] 7 ".", rfl, rfl, path, ?_⟩
  rintro ⟨written, longer⟩
  cases path.symm.trans longer

end Api

end RepoRules.Rest
