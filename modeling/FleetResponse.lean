import FleetResponse.Config
import FleetResponse.Database.Backend
import FleetResponse.Database.ResultSet
import FleetResponse.Fleet.Desk
import FleetResponse.Json.Printer
import FleetResponse.Json.Reader
import FleetResponse.Launch
import FleetResponse.Main
import FleetResponse.Response.Interleaving
import FleetResponse.Response.Trial
import FleetResponse.Time.Micros
import FleetResponse.Worker.Script
import FleetResponse.Proofs.Config
import FleetResponse.Proofs.Database.Decoding
import FleetResponse.Proofs.Database.Edge
import FleetResponse.Proofs.Database.Refinement
import FleetResponse.Proofs.Database.Table
import FleetResponse.Proofs.Device.History
import FleetResponse.Proofs.Device.Index
import FleetResponse.Proofs.Firmware.Order
import FleetResponse.Proofs.Firmware.Respelling
import FleetResponse.Proofs.Firmware.Spelling
import FleetResponse.Proofs.Firmware.Standing
import FleetResponse.Proofs.Fleet.Capabilities
import FleetResponse.Proofs.Fleet.Contents
import FleetResponse.Proofs.Fleet.Effect
import FleetResponse.Proofs.Fleet.Interleaving
import FleetResponse.Proofs.Fleet.Linear
import FleetResponse.Proofs.Fleet.Reachable
import FleetResponse.Proofs.Fleet.Retry
import FleetResponse.Proofs.Fleet.Sweeps
import FleetResponse.Proofs.Fleet.Together
import FleetResponse.Proofs.Ident.Grammar
import FleetResponse.Proofs.Ident.Order
import FleetResponse.Proofs.Ident.Text
import FleetResponse.Proofs.Json.Layouts
import FleetResponse.Proofs.Json.Records
import FleetResponse.Proofs.Launch.Outcome
import FleetResponse.Proofs.Reading.Course
import FleetResponse.Proofs.Reading.Precision
import FleetResponse.Proofs.Reading.Quality
import FleetResponse.Proofs.Reading.Sweeps
import FleetResponse.Proofs.Response.CallEffects
import FleetResponse.Proofs.Response.Plan
import FleetResponse.Proofs.Response.Session
import FleetResponse.Proofs.Time.Truncation
import FleetResponse.Proofs.Worker.Books
import FleetResponse.Proofs.Worker.Callbacks
import FleetResponse.Proofs.Worker.Clients
import FleetResponse.Proofs.Worker.Handling
import FleetResponse.Proofs.Worker.Outcomes
import FleetResponse.Proofs.Worker.ShutdownRequest
