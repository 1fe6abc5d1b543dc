import ChatSystem.CString
import ChatSystem.Messaging
import ChatSystem.MessagingTheorems
import ChatSystem.Registry
import ChatSystem.RegistryTheorems
import ChatSystem.ProcessMessage
import ChatSystem.ProcessMessageTheorems
import ChatSystem.Server
import ChatSystem.ServerInvariant
import ChatSystem.ServerTheorems
import ChatSystem.Delivery
import ChatSystem.Sockets
import ChatSystem.Framing
import ChatSystem.Client
import ChatSystem.History
import ChatSystem.Broadcasts
import ChatSystem.Display
import ChatSystem.Session
