import RouterMenu.Menu.Basic

/-!
# Tasks and scripts

Scheduled tasks and stored scripts are known by their names. The interval of a task is the one
field of the catalogue that holds a duration.
-/

namespace RouterMenu.Menu

/-- Tasks run at intervals. -/
def scheduler : Menu where
  title := "Scheduler"
  path := "/system/scheduler"
  kind := "scheduler"
  key := "name"
  fields := [
    .text "id" ".id",
    .text "name" "name",
    .text "on_event" "on-event",
    .text "start_date" "start-date",
    .text "start_time" "start-time",
    .duration .i64 "interval" "interval",
    .flag "disabled" "disabled",
    .text "comment" "comment"]

/-- Stored scripts. -/
def script : Menu where
  title := "Script"
  path := "/system/script"
  kind := "script"
  key := "name"
  fields := [
    .text "id" ".id",
    .text "name" "name",
    .text "owner" "owner",
    .text "source" "source",
    .text "policy" "policy",
    .flag "dont_require_permissions" "dont-require-permissions",
    .text "comment" "comment"]

end RouterMenu.Menu
