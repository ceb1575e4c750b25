import ChatHook.Endpoint
import ChatHook.Main
import ChatHook.Proofs.Captured
import ChatHook.Proofs.Chain
import ChatHook.Proofs.Credentials
import ChatHook.Proofs.EntryPoints
import ChatHook.Proofs.Exchange
import ChatHook.Proofs.ExitCode
import ChatHook.Proofs.Extent
import ChatHook.Proofs.Fidelity
import ChatHook.Proofs.FirstAnswer
import ChatHook.Proofs.Framing
import ChatHook.Proofs.HeadLines
import ChatHook.Proofs.HostText
import ChatHook.Proofs.Independence
import ChatHook.Proofs.Json.BareQuotes
import ChatHook.Proofs.Json.Recovery
import ChatHook.Proofs.LengthText
import ChatHook.Proofs.LocalUrl
import ChatHook.Proofs.LogSetting
import ChatHook.Proofs.Overlooked
import ChatHook.Proofs.Setting
import ChatHook.Proofs.Source
import ChatHook.Proofs.Stages
import ChatHook.Proofs.Userinfo
import ChatHook.Proofs.WrittenHead
import ChatHook.Session
import ChatHook.Proofs.OneShot
import ChatHook.Proofs.CommandLine.Grammar
import ChatHook.Proofs.Stop
import ChatHook.Proofs.CommandLine.Updates
import ChatHook.Proofs.HostField
import ChatHook.Proofs.Base64
import ChatHook.Proofs.HeaderFields
import ChatHook.Proofs.MessageBlind
import ChatHook.Proofs.FailedSend
import ChatHook.Proofs.LogContent
import ChatHook.Proofs.ShownRecords
