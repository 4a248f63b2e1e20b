import SecurityGuard.ConfigData

/-!
# Permission checks of the service

A call is checked against the permissions of an interface or of an event group.  A check of a
group also rejects events outside the group.
-/

namespace SecurityGuard

def requestPermission : String := "ohos.permission.securityguard.REQUEST_SECURITY_EVENT_INFO"
def querySecurityEventPermission : String := "ohos.permission.QUERY_SECURITY_EVENT"

/-- The interfaces of event subscriptions and queries that are checked as such. -/
inductive Api where
  | querySecurityEvent
  | subscribe
  | unSubscribe
  deriving DecidableEq, Repr

/-- The permissions that open an interface, each of them alone. -/
def apiPermissionsMap : Api → List String
  | .querySecurityEvent | .subscribe | .unSubscribe =>
      [requestPermission, querySecurityEventPermission]

/-- A caller has one of the permissions. -/
def isCallerHasPublicPermissions (caller : Caller) (permissions : List String) : Code :=
  if permissions.any caller.permissions.contains then .success else .noPermission

/-- A caller is a native process or a system application. -/
def isCallerHasSystemPermission (caller : Caller) : Code :=
  if caller.tokenType ≠ .native ∧ !caller.isSystemApp then .noSystemCall else .success

/-- Check the permissions of a caller for an interface. -/
def isCallerHasApiPermission (caller : Caller) (api : Api) : Code :=
  let code := isCallerHasPublicPermissions caller (apiPermissionsMap api)
  if code ≠ .success then code else isCallerHasSystemPermission caller

namespace ConfigData

variable (config : ConfigData)

/-- A caller has a permission of a group that contains the events. -/
def isEventGroupHasPublicPermission (caller : Caller) (eventGroup : String)
    (eventIds : List Int) : Code :=
  match config.getEventGroupConfig eventGroup with
  | none => .badParam
  | some cfg =>
      if eventIds.any fun eventId => !cfg.eventList.contains eventId then .badParam
      else isCallerHasPublicPermissions caller cfg.permissionList

/-- Check a caller for a group, as a process of the system too. -/
def isEventGroupHasPermission (caller : Caller) (eventGroup : String) (eventIds : List Int) :
    Code :=
  let code := config.isEventGroupHasPublicPermission caller eventGroup eventIds
  if code ≠ .success then code else isCallerHasSystemPermission caller

/-- The check of the calls that carry a subscription with its group. -/
def checkSubscribeInfo (caller : Caller) (api : Api) (eventGroup : String) (eventId : Int) :
    Code :=
  if eventGroup = "" then isCallerHasApiPermission caller api
  else if eventGroup = "auditGroup" then
    config.isEventGroupHasPublicPermission caller eventGroup [eventId]
  else config.isEventGroupHasPermission caller eventGroup [eventId]

/-- The check of the calls on a client, whose group is that of the client. -/
def checkClientGroup (caller : Caller) (eventGroup : String) (eventIds : List Int) : Code :=
  if eventGroup = "securityGroup" then
    config.isEventGroupHasPermission caller eventGroup eventIds
  else config.isEventGroupHasPublicPermission caller eventGroup eventIds

variable {config} {caller : Caller} {eventGroup : String} {eventIds : List Int}

/-- Every event of a call that passes the check of a group is in the list of the group. -/
theorem mem_eventList_of_publicPermission
    (passed : config.isEventGroupHasPublicPermission caller eventGroup eventIds = .success) :
    ∃ cfg, config.getEventGroupConfig eventGroup = some cfg ∧
      ∀ eventId ∈ eventIds, cfg.eventList.contains eventId = true := by
  rw [isEventGroupHasPublicPermission] at passed
  cases found : config.getEventGroupConfig eventGroup with
  | none =>
      simp only [found] at passed
      exact absurd passed (by decide)
  | some cfg =>
      simp only [found] at passed
      split_ifs at passed with outside
      · exact absurd passed (by decide)
      · refine ⟨cfg, rfl, fun eventId mem => ?_⟩
        by_contra absent
        exact outside (List.any_eq_true.mpr ⟨eventId, mem, by simpa using absent⟩)

theorem publicPermission_of_permission
    (passed : config.isEventGroupHasPermission caller eventGroup eventIds = .success) :
    config.isEventGroupHasPublicPermission caller eventGroup eventIds = .success := by
  rw [isEventGroupHasPermission] at passed
  split_ifs at passed with failed
  · exact absurd passed failed
  · exact not_not.mp failed

theorem mem_eventList_of_checkClientGroup
    (passed : config.checkClientGroup caller eventGroup eventIds = .success) :
    ∃ cfg, config.getEventGroupConfig eventGroup = some cfg ∧
      ∀ eventId ∈ eventIds, cfg.eventList.contains eventId = true := by
  rw [checkClientGroup] at passed
  split_ifs at passed
  · exact mem_eventList_of_publicPermission (publicPermission_of_permission passed)
  · exact mem_eventList_of_publicPermission passed

theorem mem_eventList_of_checkSubscribeInfo {api : Api} {eventId : Int} (named : eventGroup ≠ "")
    (passed : config.checkSubscribeInfo caller api eventGroup eventId = .success) :
    ∃ cfg, config.getEventGroupConfig eventGroup = some cfg ∧
      cfg.eventList.contains eventId = true := by
  have public_passed :
      config.isEventGroupHasPublicPermission caller eventGroup [eventId] = .success := by
    rw [checkSubscribeInfo, if_neg named] at passed
    split_ifs at passed
    · exact passed
    · exact publicPermission_of_permission passed
  obtain ⟨cfg, found, contained⟩ := mem_eventList_of_publicPermission public_passed
  exact ⟨cfg, found, contained eventId List.mem_cons_self⟩

end ConfigData

end SecurityGuard
