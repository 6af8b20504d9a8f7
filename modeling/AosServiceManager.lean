import AosServiceManager.Go.Basic
import AosServiceManager.Go.Path
import AosServiceManager.Go.Json
import AosServiceManager.ResourceManager.Basic
import AosServiceManager.ResourceManager.Contract
import AosServiceManager.ResourceManager.Capacity
import AosServiceManager.Reconcile.ProcessAmqpMessage
import AosServiceManager.Database.Services
import AosServiceManager.Database.Lookup
import AosServiceManager.Database.Store
import AosServiceManager.Database.Provider
import AosServiceManager.Database.Instances
import AosServiceManager.Image.Validate
import AosServiceManager.Fcrypt.Decrypt
import AosServiceManager.Fcrypt.Image
import AosServiceManager.Launcher.Basic
import AosServiceManager.Launcher.Service
import AosServiceManager.Launcher.Frame
import AosServiceManager.Launcher.Devices
import AosServiceManager.Launcher.Users
import AosServiceManager.Launcher.Versions
import AosServiceManager.Launcher.Tables
import AosServiceManager.Launcher.Expiry
import AosServiceManager.Launcher.Hostfs
import AosServiceManager.Launcher.MountPoints
import AosServiceManager.Launcher.SystemdUnit
import AosServiceManager.Launcher.Spec
import AosServiceManager.Launcher.HostDevices
import AosServiceManager.Launcher.ServiceConfig
import AosServiceManager.Alerts.Batch
import AosServiceManager.Alerts.Journal
import AosServiceManager.Pbconvert.InstanceIdent
import AosServiceManager.Iamclient.Subjects
