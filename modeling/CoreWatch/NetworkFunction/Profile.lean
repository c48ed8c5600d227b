import CoreWatch.Json.Basic
import CoreWatch.NetworkFunction.Basic

set_option autoImplicit false

namespace CoreWatch.NetworkFunction

structure Profile where
  name : String
  description : String
  interfaces : List String
  duties : List String
  metricExamples : List String

def Profile.toJson (profile : Profile) : Json :=
  .object [
    ("name", .str profile.name),
    ("description", .str profile.description),
    ("key_interfaces", .strings profile.interfaces),
    ("main_functions", .strings profile.duties),
    ("metric_examples", .strings profile.metricExamples)]

def profile : NetworkFunction → Profile
  | amf => {
      name := "Access and Mobility Management Function"
      description :=
        "Terminates NAS signalling and handles UE registration, reachability and mobility"
      interfaces := ["N1 (UE)", "N2 (gNB)", "N8 (UDM)", "N11 (SMF)", "N12 (AUSF)"]
      duties := [
        "Registration management",
        "Connection management",
        "Mobility management",
        "Access authentication"]
      metricExamples := [
        "fivegs_amffunction_rm_reginitreq",
        "fivegs_amffunction_rm_reginitsucc",
        "fivegs_amffunction_amf_authreq",
        "ran_ue",
        "gnb",
        "amf_session"] }
  | smf => {
      name := "Session Management Function"
      description :=
        "Establishes and manages PDU sessions and controls the user plane"
      interfaces := ["N4 (UPF)", "N7 (PCF)", "N10 (UDM)", "N11 (AMF)"]
      duties := [
        "PDU session establishment",
        "UE IP address allocation",
        "UPF selection",
        "QoS flow control"]
      metricExamples := [
        "fivegs_smffunction_sm_sessionnbr",
        "fivegs_smffunction_sm_pdusessioncreationreq",
        "pfcp_sessions_active",
        "ues_active",
        "gtp_new_node"] }
  | pcf => {
      name := "Policy Control Function"
      description :=
        "Provides policy rules for access, mobility and session management"
      interfaces := ["N5 (AF)", "N7 (SMF)", "N15 (AMF)"]
      duties := ["AM policy association", "SM policy association", "Charging control"]
      metricExamples := [
        "fivegs_pcffunction_pa_policyamassoreq",
        "fivegs_pcffunction_pa_policyamassosucc",
        "fivegs_pcffunction_pa_policysmassoreq",
        "fivegs_pcffunction_pa_policysmassosucc"] }
  | upf => {
      name := "User Plane Function"
      description :=
        "Forwards user traffic between the radio network and data networks"
      interfaces := ["N3 (gNB)", "N4 (SMF)", "N6 (DN)", "N9 (UPF)"]
      duties := ["Packet routing and forwarding", "QoS enforcement", "Usage reporting"]
      metricExamples := [
        "fivegs_ep_n3_gtp_indatapktn3upf",
        "fivegs_ep_n3_gtp_outdatapktn3upf",
        "fivegs_upffunction_upf_sessionnbr",
        "fivegs_upffunction_sm_n4sessionestabreq"] }
  | mme => {
      name := "Mobility Management Entity"
      description :=
        "Control-plane node of the EPC handling attach, paging and bearer setup"
      interfaces := ["S1-MME (eNB)", "S6a (HSS)", "S11 (SGW-C)"]
      duties := ["Attach and detach", "Tracking area updates", "Bearer management", "Paging"]
      metricExamples := ["mme_session", "enb_ue", "enb"] }
  | pcrf => {
      name := "Policy and Charging Rules Function"
      description :=
        "Decides policy and charging rules for EPC bearers"
      interfaces := ["Gx (PGW)", "Rx (AF)"]
      duties := ["Policy decisions", "Flow-based charging control"]
      metricExamples := [] }

end CoreWatch.NetworkFunction
