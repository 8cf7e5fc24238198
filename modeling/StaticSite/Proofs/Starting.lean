import StaticSite.Server.Program

/-! How a start ends. It answers that it was refused where the settings have problems or the system
gives no listener, and says so in one line; it answers that it was well once the site was served and
stopped. But it does not catch all that may go wrong on the way: the place of the site is read before
anything is checked, the directory may not be looked at, the host may be no name, and the server may
not know the level of its log. -/

namespace StaticSite

variable {s : Settings} {v : Vantage} {n : Network}

/-! ### The check and the listener -/

namespace Settings

/-- The check does not end with a failure to report unless the directory could not be looked at. -/
theorem check_system_iff {e : SystemError} {path : Text} :
    s.check v = .error (.system e path) ↔
      v.stat (Path.ofText (Path.plain s.rootDir)) = .error (.system e) ∧ e.meansMissing = false ∧
        path = Path.plain s.rootDir := by
  rw [check]
  generalize Path.plain s.rootDir = root
  have hroot : rootProblem v root = .error (.system e path) ↔
      v.stat (Path.ofText root) = .error (.system e) ∧ e.meansMissing = false ∧ path = root := by
    rw [rootProblem]
    rcases v.stat (Path.ofText root) with (_ | e') | entry
    · simp
    · by_cases hmissing : e'.meansMissing
      · simp only [if_pos hmissing]
        refine iff_of_false nofun ?_
        rintro ⟨h, hfalse, -⟩
        cases h
        rw [hmissing] at hfalse
        cases hfalse
      · simp only [if_neg hmissing]
        constructor
        · intro h
          cases h
          exact ⟨rfl, by simpa using hmissing, rfl⟩
        · rintro ⟨h, -, rfl⟩
          cases h
          rfl
    · simp only
      refine iff_of_false ?_ nofun
      repeat' split
      all_goals nofun
  rw [← hroot]
  cases rootProblem v root with
  | error e => simp
  | ok found =>
      simp only
      split <;> simp

theorem port_of_check (h : s.check v = .ok ()) : 0 ≤ s.port ∧ s.port ≤ maxPort := by
  rw [check] at h
  split at h
  · cases h
  · split at h
    · rename_i hlist
      have hport := (List.append_eq_nil_iff.mp (List.append_eq_nil_iff.mp hlist).1).2
      rw [portProblem] at hport
      by_cases hrange : 0 ≤ s.port ∧ s.port ≤ maxPort
      · exact hrange
      · rw [if_neg hrange] at hport
        cases hport
    · cases h

end Settings

namespace Network

/-- A port in range is bound unless the host is no name or the system refuses. -/
theorem bind_error {host : Text} {port : Int} {e : CallError} (hport : 0 ≤ port ∧ port ≤ maxPort)
    (h : n.bind host port = .error e) : lookupName host = .error e ∨ ∃ e', e = .system e' := by
  rw [bind] at h
  cases hname : lookupName host with
  | error e' =>
      rw [hname] at h
      cases h
      exact Or.inl rfl
  | ok name =>
      right
      rw [hname] at h
      have hfits : fitsHalfWord port = true := by
        simp only [fitsHalfWord, maxPort, Bool.and_eq_true, decide_eq_true_eq] at hport ⊢
        omega
      simp only [hfits] at h
      cases haddress : n.resolve host name with
      | error e' =>
          rw [haddress] at h
          cases h
          exact ⟨e', rfl⟩
      | ok address =>
          rw [haddress] at h
          simp only [Bool.not_true] at h
          rw [if_neg Bool.false_ne_true, bindTo, if_neg (by omega)] at h
          split at h
          · cases h
            exact ⟨_, rfl⟩
          split at h
          · cases h
            exact ⟨_, rfl⟩
          split at h
          · cases h
          split at h
          · cases h
            exact ⟨_, rfl⟩
          · cases h

theorem bind_of_name_error {host : Text} {e : CallError} (h : lookupName host = .error e)
    (port : Int) : n.bind host port = .error e := by
  rw [bind, h]

/-- That a host is no name is not for the system to say. -/
theorem lookupName_ne_system (host : Text) (e : SystemError) :
    lookupName host ≠ .error (.system e) := by
  rw [lookupName]
  split
  · nofun
  · split <;> nofun

/-- Opening a listener comes to what binding comes to. -/
theorem listen_result (host : Text) (port : Int) :
    (n.listen host port).result =
      match n.bind host port with
      | .error (.system e) => .error (.startup host port e)
      | .error e => .error (.call e)
      | .ok (address, bound) => .ok ⟨address, bound, true, true, true, false⟩ := by
  simp only [listen, calls, Listener.openWith]
  rcases n.bind host port with (_ | _ | _ | _ | _) | ⟨address, bound⟩ <;> rfl

end Network

/-! ### The start -/

namespace Server

/-- Why a start is refused, in words: the settings have problems, or they have none but the system
gives no listener. -/
inductive Refused (s : Settings) (v : Vantage) (n : Network) : Text → Prop
  | settings (list : List Problem) (h : s.check v = .error (.problems list)) :
      Refused s v n (Problem.summary list)
  | listener (e : SystemError) (hcheck : s.check v = .ok ())
      (h : n.bind s.host s.port = .error (.system e)) :
      Refused s v n (ListenError.message (.startup s.host s.port e))

/-- What a start asks for beyond what it reports: a place that can be read, a directory that can be
looked at, and, as soon as they are used, a host that is a name and a level that the server knows. -/
structure Answerable (s : Settings) (v : Vantage) (n : Network) : Prop where
  mounted : (Mount.ofPrefix s.urlPrefix).isOk = true
  looked : ∀ e, v.stat (Path.ofText (Path.plain s.rootDir)) = .error (.system e) →
    e.meansMissing = true
  named : s.check v = .ok () → (Network.lookupName s.host).isOk = true
  levelled : s.check v = .ok () → (n.bind s.host s.port).isOk = true →
    (Level.checkServer s.logLevel).isOk = true

/-- How a start ends that finds a place for its site. -/
inductive Ends (s : Settings) (v : Vantage) (n : Network) (l : Launch) : Prop
  | refused (message : Text) (why : Refused s v n message) (ended : l.progress = .ended false)
      (log : l.log = [failedLine message])
  | served (hcheck : s.check v = .ok ()) (hbind : (n.bind s.host s.port).isOk = true)
      (hlevel : (Level.checkServer s.logLevel).isOk = true) (ended : l.progress = .ended true)
      (log : ∃ port, l.log = [listeningLine port, App.startLine s, App.stopLine])
  | raised (e : StartFailure) (raised : l.progress = .raised e)
      (why : ¬ Answerable s v n) (not : ∀ message, ¬ Refused s v n message)

theorem start_of_mount_error {e : MountError} (h : Mount.ofPrefix s.urlPrefix = .error e) :
    start s v n = .error e := by
  simp only [start, create, App.create, h, Except.map]

theorem start_of_mount {mount : Mount} (h : Mount.ofPrefix s.urlPrefix = .ok mount) :
    start s v n = .ok
      ((launch ⟨s, ⟨s, mount, false⟩, none, false⟩ v n).finish [] (.ok ())) := by
  simp only [start, create, App.create, h, Except.map, stop]

/-- Nothing is refused that ends in a failure of the check. -/
theorem not_refused_of_check {e : SystemError} {path : Text}
    (h : s.check v = .error (.system e path)) (message : Text) : ¬ Refused s v n message := by
  rintro (⟨list, hlist⟩ | ⟨e', hcheck, -⟩)
  · rw [h] at hlist
    cases hlist
  · rw [h] at hcheck
    cases hcheck

theorem ends_launch (app : App) :
    Ends s v n ((launch ⟨s, app, none, false⟩ v n).finish [] (.ok ())) := by
  rw [launch, launchWith]
  cases hcheck : s.check v with
  | error e =>
      cases e with
      | problems list => exact .refused _ (.settings list hcheck) rfl rfl
      | system e path =>
          have hstat := Settings.check_system_iff.mp hcheck
          refine .raised (.check e path) rfl (fun h => ?_) (not_refused_of_check hcheck)
          have hmissing := h.looked e hstat.1
          rw [hstat.2.1] at hmissing
          cases hmissing
  | ok _ =>
      simp only [Network.listen_result]
      cases hbind : n.bind s.host s.port with
      | error e =>
          rcases Network.bind_error (Settings.port_of_check hcheck) hbind with hname | ⟨e, rfl⟩
          · have hresult : ∀ message, ¬ Refused s v n message := by
              rintro message (⟨list, hlist⟩ | ⟨e', -, hrefused⟩)
              · rw [hcheck] at hlist
                cases hlist
              · rw [hbind] at hrefused
                cases hrefused
                exact Network.lookupName_ne_system _ _ hname
            have hnot : ¬ Answerable s v n := fun h => by
              have := h.named hcheck
              rw [hname] at this
              cases this
            cases e with
            | system e => exact absurd hname (Network.lookupName_ne_system _ _)
            | _ => exact .raised _ rfl hnot hresult
          · exact .refused _ (.listener e hcheck hbind) rfl rfl
      | ok bound =>
          obtain ⟨address, port⟩ := bound
          simp only [serveOn]
          cases hlevel : Level.checkServer s.logLevel with
          | ok _ =>
              exact .served hcheck (by rw [hbind]; rfl) (by rw [hlevel]; rfl) rfl ⟨port, rfl⟩
          | error name =>
              refine .raised (.unknownLevel name) rfl (fun h => ?_) ?_
              · have := h.levelled hcheck (by rw [hbind]; rfl)
                rw [hlevel] at this
                cases this
              · rintro message (⟨list, hlist⟩ | ⟨e', -, hrefused⟩)
                · rw [hcheck] at hlist
                  cases hlist
                · rw [hbind] at hrefused
                  cases hrefused

theorem Refused.unique {message message' : Text} (h : Refused s v n message)
    (h' : Refused s v n message') : message' = message := by
  rcases h with ⟨list, hlist⟩ | ⟨e, hcheck, hbind⟩
  · rcases h' with ⟨list', hlist'⟩ | ⟨e', hcheck', -⟩
    · rw [hlist] at hlist'
      cases hlist'
      rfl
    · rw [hlist] at hcheck'
      cases hcheck'
  · rcases h' with ⟨list', hlist'⟩ | ⟨e', -, hbind'⟩
    · rw [hcheck] at hlist'
      cases hlist'
    · rw [hbind] at hbind'
      cases hbind'
      rfl

/-- The directory could be looked at if the check says anything else. -/
theorem looked_of_check (h : ∀ e path, s.check v ≠ .error (.system e path)) (e : SystemError)
    (he : v.stat (Path.ofText (Path.plain s.rootDir)) = .error (.system e)) :
    e.meansMissing = true := by
  cases hmissing : e.meansMissing with
  | true => rfl
  | false => exact absurd (Settings.check_system_iff.mpr ⟨he, hmissing, rfl⟩) (h _ _)

theorem Refused.answerable {message : Text} (h : Refused s v n message)
    (hmount : (Mount.ofPrefix s.urlPrefix).isOk = true) : Answerable s v n := by
  refine ⟨hmount, looked_of_check fun e path hsystem => not_refused_of_check hsystem message h,
    fun hcheck => ?_, fun hcheck hbound => ?_⟩
  · cases hname : Network.lookupName s.host with
    | ok name => rfl
    | error e =>
        rcases h with ⟨list, hlist⟩ | ⟨e', -, hbind⟩
        · rw [hcheck] at hlist
          cases hlist
        · rw [Network.bind_of_name_error hname] at hbind
          cases hbind
          exact absurd hname (Network.lookupName_ne_system _ _)
  · rcases h with ⟨list, hlist⟩ | ⟨e', -, hbind⟩
    · rw [hcheck] at hlist
      cases hlist
    · rw [hbind] at hbound
      cases hbound

theorem answerable_of_served (hmount : (Mount.ofPrefix s.urlPrefix).isOk = true)
    (hcheck : s.check v = .ok ()) (hbind : (n.bind s.host s.port).isOk = true)
    (hlevel : (Level.checkServer s.logLevel).isOk = true) : Answerable s v n := by
  refine ⟨hmount, looked_of_check fun e path hsystem => ?_, fun _ => ?_, fun _ _ => hlevel⟩
  · rw [hcheck] at hsystem
    cases hsystem
  · cases hname : Network.lookupName s.host with
    | ok name => rfl
    | error e =>
        rw [Network.bind_of_name_error hname] at hbind
        cases hbind

/-- How each start ends, the place of the site being read before all else. -/
theorem start_cases (s : Settings) (v : Vantage) (n : Network) :
    (∃ e, Mount.ofPrefix s.urlPrefix = .error e ∧ start s v n = .error e) ∨
      ((Mount.ofPrefix s.urlPrefix).isOk = true ∧
        ∃ launch, start s v n = .ok launch ∧ Ends s v n launch) := by
  cases hmount : Mount.ofPrefix s.urlPrefix with
  | error e => exact Or.inl ⟨e, rfl, start_of_mount_error hmount⟩
  | ok mount => exact Or.inr ⟨rfl, _, start_of_mount hmount, ends_launch _⟩

theorem answers_iff :
    (∃ launch started, start s v n = .ok launch ∧ launch.progress = .ended started) ↔
      Answerable s v n := by
  rcases start_cases s v n with ⟨e, hmount, hstart⟩ | ⟨hmount, launch, hstart, hends⟩
  · refine iff_of_false ?_ fun h => ?_
    · rintro ⟨launch, started, h, -⟩
      rw [hstart] at h
      cases h
    · have := h.mounted
      rw [hmount] at this
      cases this
  · rcases hends with ⟨message, hwhy, hended, -⟩ | ⟨hcheck, hbind, hlevel, hended, -⟩ |
      ⟨e, hraised, hnot, -⟩
    · exact iff_of_true ⟨launch, false, hstart, hended⟩ (hwhy.answerable hmount)
    · exact iff_of_true ⟨launch, true, hstart, hended⟩
        (answerable_of_served hmount hcheck hbind hlevel)
    · refine iff_of_false ?_ hnot
      rintro ⟨launch', started, h, hended⟩
      rw [hstart] at h
      cases h
      rw [hraised] at hended
      cases hended

theorem refused_iff (message : Text) :
    (∃ launch, start s v n = .ok launch ∧ launch.progress = .ended false ∧
        launch.log = [failedLine message]) ↔
      (Mount.ofPrefix s.urlPrefix).isOk = true ∧ Refused s v n message := by
  rcases start_cases s v n with ⟨e, hmount, hstart⟩ | ⟨hmount, launch, hstart, hends⟩
  · refine iff_of_false ?_ fun h => ?_
    · rintro ⟨launch, h, -⟩
      rw [hstart] at h
      cases h
    · rw [hmount] at h
      cases h.1
  · rcases hends with ⟨message', hwhy, hended, hlog⟩ | ⟨hcheck, hbind, -, hended, -⟩ |
      ⟨e, hraised, -, hnone⟩
    · constructor
      · rintro ⟨launch', h, -, hlog'⟩
        rw [hstart] at h
        cases h
        rw [hlog] at hlog'
        simp only [failedLine, List.cons.injEq, LogLine.mk.injEq, List.append_cancel_left_eq,
          true_and, and_true] at hlog'
        exact ⟨hmount, hlog' ▸ hwhy⟩
      · rintro ⟨-, hwhy'⟩
        exact ⟨launch, hstart, hended, hwhy.unique hwhy' ▸ hlog⟩
    · refine iff_of_false ?_ fun h => ?_
      · rintro ⟨launch', h, hended', -⟩
        rw [hstart] at h
        cases h
        rw [hended] at hended'
        cases hended'
      · rcases h.2 with ⟨list, hlist⟩ | ⟨e, -, hrefused⟩
        · rw [hcheck] at hlist
          cases hlist
        · rw [hrefused] at hbind
          cases hbind
    · refine iff_of_false ?_ fun h => hnone message h.2
      rintro ⟨launch', h, hended, -⟩
      rw [hstart] at h
      cases h
      rw [hraised] at hended
      cases hended

/-- There is one line of an error if a start is refused, and none if the site was served. -/
theorem errors_of_ended {launch : Launch} {started : Bool} (hstart : start s v n = .ok launch)
    (hended : launch.progress = .ended started) :
    launch.log.countP (·.level = .error) = if started then 0 else 1 := by
  rcases start_cases s v n with ⟨e, -, h⟩ | ⟨-, launch', h, hends⟩
  · rw [hstart] at h
    cases h
  · rw [hstart] at h
    cases h
    rcases hends with ⟨message, -, h, hlog⟩ | ⟨-, -, -, h, port, hlog⟩ | ⟨e, h, -, -⟩
    · rw [hended] at h
      cases h
      rw [hlog]
      rfl
    · rw [hended] at h
      cases h
      rw [hlog]
      rfl
    · rw [hended] at h
      cases h

end Server

/-! ### The program -/

namespace Program

/-- The program returns, or exits with the status of a failure, if and only if its start answers. -/
theorem run_iff :
    (run s v n).1 = .returned ∨ (run s v n).1 = .exit 1 ↔
      ∃ launch started, Server.start s v n = .ok launch ∧ launch.progress = .ended started := by
  rw [run]
  rcases Server.start_cases s v n with ⟨e, -, hstart⟩ | ⟨-, launch, hstart, hends⟩
  · rw [hstart]
    refine iff_of_false (by simp) ?_
    rintro ⟨launch, started, h, -⟩
    cases h
  · have hprogress : (∃ started, launch.progress = .ended started) ∨
        ∃ e, launch.progress = .raised e := by
      rcases hends with ⟨_, -, hended, -⟩ | ⟨-, -, -, hended, -⟩ | ⟨e, hraised, -, -⟩
      · exact Or.inl ⟨_, hended⟩
      · exact Or.inl ⟨_, hended⟩
      · exact Or.inr ⟨e, hraised⟩
    rw [hstart]
    rcases hprogress with ⟨started, hended⟩ | ⟨e, hraised⟩
    · refine iff_of_true ?_ ⟨launch, started, rfl, hended⟩
      cases started <;> simp [hended, finish]
    · refine iff_of_false (by simp [hraised, finish]) ?_
      rintro ⟨launch', started, h, hended⟩
      cases h
      rw [hraised] at hended
      cases hended

/-- A prefix that is neither empty nor begins with a slash is never reported as a problem: the server
cannot be made. -/
theorem run_of_unrouted (hne : s.urlPrefix ≠ []) (hslash : s.urlPrefix.head? ≠ some '/') :
    run s v n = (.raised (.mount .notRouted), []) := by
  have hmount : Mount.ofPrefix s.urlPrefix = .error .notRouted := by
    rw [Mount.ofPrefix, if_neg]
    rintro (h | h)
    · exact hne h
    · exact hslash h
  rw [run, Server.start_of_mount_error hmount]

end Program

/-- A start answers if and only if all that it asks for and does not report is there. It answers that
it was refused, in a single line, for the reasons that it reports, provided that the place of the site
can be read. The program returns or exits in the same cases, and is ended by a failure in all
others. -/
theorem Server.start_iff (s : Settings) (v : Vantage) (n : Network) :
    ((∃ launch started, start s v n = .ok launch ∧ launch.progress = .ended started) ↔
      Answerable s v n) ∧
    (∀ message, (∃ launch, start s v n = .ok launch ∧ launch.progress = .ended false ∧
        launch.log = [failedLine message]) ↔
      (Mount.ofPrefix s.urlPrefix).isOk = true ∧ Refused s v n message) ∧
    (∀ launch started, start s v n = .ok launch → launch.progress = .ended started →
      launch.log.countP (·.level = .error) = if started then 0 else 1) ∧
    ((Program.run s v n).1 = .returned ∨ (Program.run s v n).1 = .exit 1 ↔ Answerable s v n) := by
  refine ⟨answers_iff, refused_iff, fun launch started hstart hended => ?_, ?_⟩
  · exact errors_of_ended hstart hended
  · rw [Program.run_iff, answers_iff]

/-- Settings whose problem is not reported. -/
def Settings.unrouted : Settings :=
  { Settings.standard ['/'] with urlPrefix := ['x'] }

theorem Server.start_iff_unrouted :
    let v : Vantage := ⟨⟨[]⟩, .superuser, []⟩
    let n : Network := ⟨fun _ => true, [], 32768, [], true⟩
    Settings.prefixProblem Settings.unrouted.urlPrefix = [.prefixWithoutSlash ['x']] ∧
      ¬ ((Program.run Settings.unrouted v n).1 = .returned ∨
        (Program.run Settings.unrouted v n).1 = .exit 1) := by
  intro v n
  refine ⟨by decide, fun h => ?_⟩
  obtain ⟨-, -, -, hrun⟩ := Server.start_iff Settings.unrouted v n
  have hmounted := (hrun.mp h).mounted
  exact absurd hmounted (by decide +kernel)

end StaticSite
